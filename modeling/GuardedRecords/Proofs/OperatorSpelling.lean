import GuardedRecords.Filter.Where
import GuardedRecords.Proofs.JsonReading

namespace GuardedRecords

/-- A word with each letter in one of its cases. -/
inductive CaseSpelled : List Char → List Char → Prop
  | nil : CaseSpelled [] []
  | cons {letter c : Char} {word spelled : List Char} : isCaseOf letter c = true →
      CaseSpelled word spelled → CaseSpelled (letter :: word) (c :: spelled)

/-- If a word is found at the front of a text, then what stands there spells it in some cases of its
letters. -/
theorem afterWord?_eq_some {word s spelled rest : List Char}
    (found : afterWord? word s = some (spelled, rest)) :
    CaseSpelled word spelled ∧ s = spelled ++ rest := by
  fun_induction afterWord? word s generalizing spelled rest with
  | case1 s =>
    cases found
    exact ⟨.nil, rfl⟩
  | case2 letter word c s case ih =>
    obtain ⟨⟨more, tail⟩, run, same⟩ := Option.map_eq_some_iff.mp found
    cases same
    obtain ⟨spelling, rfl⟩ := ih run
    exact ⟨.cons case spelling, rfl⟩
  | case3 => cases found
  | case4 => cases found

/-- The letters of the operators that are words. -/
def operatorLetters : List Char := ['l', 'i', 'k', 'e', 'n']

/-- The characters that are taken for a letter of an operator. -/
def casesOf (letter : Char) : List Char :=
  [letter, letter.toUpper] ++
    if letter = 'i' then ['\u0130', '\u0131'] else if letter = 'k' then ['\u212a'] else []

/-- The letters of the operators have few cases, which the table lists: among them the two odd
letters i and the sign of the unit Kelvin for a k. -/
theorem mem_casesOf_of_isCaseOf {letter c : Char} (known : letter ∈ operatorLetters)
    (case : isCaseOf letter c = true) : c ∈ casesOf letter := by
  have table : ∀ letter ∈ operatorLetters, letter.toNat < 128 ∧ ∀ n < 128,
      (Char.ofNat n).toLower = letter → Char.ofNat n ∈ casesOf letter :=
    forall_mem_of_decide (by decide +kernel)
  obtain ⟨small, each⟩ := table letter known
  simp only [isCaseOf, Bool.or_eq_true, Bool.and_eq_true, decide_eq_true_iff] at case
  rcases case with (same | ⟨rfl, rfl | rfl⟩) | ⟨rfl, rfl⟩
  · have ascii : c.toNat < 128 := ascii_of_toLower (same ▸ small)
    have listed := each c.toNat ascii
    rw [Char.ofNat_toNat] at listed
    exact listed same
  · decide
  · decide
  · decide

/-- The ways to spell a word. -/
def spellings : List Char → List (List Char)
  | [] => [[]]
  | letter :: word => (casesOf letter).flatMap fun c => (spellings word).map fun cs => c :: cs

/-- A word has only as many spellings as its letters have cases, so what is to be known of all of
them can be computed. -/
theorem CaseSpelled.mem_spellings {word spelled : List Char} (spelling : CaseSpelled word spelled)
    (known : ∀ letter ∈ word, letter ∈ operatorLetters) : spelled ∈ spellings word := by
  induction spelling with
  | nil => exact List.mem_singleton_self []
  | @cons letter c word spelled case _ ih =>
    have first := mem_casesOf_of_isCaseOf (known letter List.mem_cons_self) case
    have others := ih fun other member => known other (List.mem_cons_of_mem letter member)
    exact List.mem_flatMap.mpr ⟨c, first, List.mem_map_of_mem others⟩

/-- Whether there is a capital letter i with a dot, or a small one without. -/
def HasOddI (s : List Char) : Prop := '\u0130' ∈ s ∨ '\u0131' ∈ s

instance (s : List Char) : Decidable (HasOddI s) := inferInstanceAs (Decidable (_ ∨ _))

theorem HasOddI.of_subset {part whole : List Char} (odd : HasOddI part) (within : part ⊆ whole) :
    HasOddI whole :=
  odd.imp (fun member => within member) (fun member => within member)

def operatorWords : List (List Char) := ["like".toList, "in".toList]

/-- A word that is taken for an operator and stands for none is spelled with such a letter. -/
theorem hasOddI_of_unknown {word spelled : List Char} {name : String} (known : word ∈ operatorWords)
    (spelling : CaseSpelled word spelled)
    (unknown : FilterOperator.ofWord (lower (String.ofList spelled)) = .unknown name) :
    HasOddI spelled := by
  have letters : (operatorWords.all fun word => word.all operatorLetters.contains) = true := by
    decide
  have table : (operatorWords.all fun word => (spellings word).all fun spelled =>
      HasOddI spelled || [.like, .mem].contains (FilterOperator.ofWord
        (lower (String.ofList spelled)))) = true := by
    decide +kernel
  simp only [List.all_eq_true, List.contains_iff_mem] at letters
  have found := List.all_eq_true.mp (List.all_eq_true.mp table word known) spelled
    (spelling.mem_spellings (letters word known))
  rw [unknown] at found
  simpa using found

theorem trimLeft_subset (s : List Char) : trimLeft s ⊆ s := (List.dropWhile_suffix isBlank).subset

theorem trim_subset (s : List Char) : trim s ⊆ s := by
  intro c member
  rw [trim, trimRight, List.mem_reverse] at member
  exact trimLeft_subset s (List.mem_reverse.mp (trimLeft_subset _ member))

/-- A word is taken for an operator without being one only by an odd letter i, which belongs to
`like` and `in` by case but not in lower case. -/
theorem wordOperator?_unknown {word s rest : List Char} {name : String}
    (known : word ∈ operatorWords) (found : wordOperator? word s = some (.unknown name, rest)) :
    HasOddI s := by
  unfold wordOperator? at found
  split at found
  · next c _ =>
    split at found
    · split at found
      · next spelled d tail run =>
        split at found
        · obtain ⟨spelling, split⟩ := afterWord?_eq_some run
          have unknown := (Prod.mk.inj (Option.some.inj found)).1
          have odd := hasOddI_of_unknown known spelling unknown
          refine odd.of_subset fun c member => trimLeft_subset _ ?_
          rw [split]
          exact List.mem_append_left _ member
        · cases found
      · cases found
    · cases found
  · cases found

theorem operator?_unknown {s rest : List Char} {name : String}
    (found : operator? s = some (.unknown name, rest)) : HasOddI s := by
  unfold operator? at found
  split at found
  · cases found
  · cases found
  · cases found
  · cases found
  · cases found
  · split at found
    · next op c tail run =>
      cases found
      cases like : wordOperator? "like".toList s with
      | some word =>
        rw [like] at run
        cases run
        exact wordOperator?_unknown List.mem_cons_self like
      | none =>
        rw [like] at run
        exact wordOperator?_unknown (List.mem_cons_of_mem _ List.mem_cons_self) run
    · cases found

theorem findOperator?_unknown {s before after : List Char} {name : String}
    (found : findOperator? s = some (before, .unknown name, after)) : HasOddI s := by
  induction s generalizing before with
  | nil => cases found
  | cons c rest ih =>
    rw [findOperator?] at found
    split at found
    · next run =>
      cases found
      exact operator?_unknown run
    · obtain ⟨⟨front, op, tail⟩, run, same⟩ := Option.map_eq_some_iff.mp found
      cases same
      exact (ih run).of_subset (List.subset_cons_self c rest)

theorem Clause.hasOddI_of_parse {s : List Char} {clause : Clause} {name : String}
    (run : Clause.parse s = .ok clause) (unknown : clause.operator = .unknown name) :
    HasOddI s := by
  unfold Clause.parse at run
  split at run
  · cases run
  · next c rest trimmed =>
    split at run
    · cases run
    · next before op after found =>
      split at run
      · cases run
        obtain rfl : op = .unknown name := unknown
        refine (findOperator?_unknown found).of_subset fun d member => trim_subset s ?_
        rw [trimmed]
        exact List.mem_cons_of_mem c member
      · cases run

/-- What follows a junction is behind one of its words and a blank. -/
theorem exists_afterWord?_of_junction? {s rest : List Char} {j : Junction}
    (found : junction? s = some (j, rest)) :
    ∃ word spelled d tail, afterWord? word (trimLeft s) = some (spelled, d :: tail) ∧
      trimLeft tail = rest := by
  unfold junction? at found
  split at found
  · split at found
    · dsimp only at found
      split at found
      · next run =>
        cases found
        split at run
        · next word => split at run <;> cases run; exact ⟨_, _, _, _, word, rfl⟩
        · cases run
      · obtain ⟨tail, run, same⟩ := Option.map_eq_some_iff.mp found
        cases same
        split at run
        · next word => split at run <;> cases run; exact ⟨_, _, _, _, word, rfl⟩
        · cases run
    · cases found
  · cases found

theorem junction?_subset {s rest : List Char} {j : Junction}
    (found : junction? s = some (j, rest)) : rest ⊆ s := by
  obtain ⟨word, spelled, d, tail, run, rfl⟩ := exists_afterWord?_of_junction? found
  have split := (afterWord?_eq_some run).2
  intro c member
  have tailed : c ∈ spelled ++ d :: tail :=
    List.mem_append_right _ (List.mem_cons_of_mem d (trimLeft_subset tail member))
  exact trimLeft_subset s (split ▸ tailed)

/-- The texts of the clauses. -/
def Splitting.pieces (s : Splitting) : List (List Char) := s.first :: s.more.map Prod.snd

theorem Splitting.pieces_prepend_subset {splitting : Splitting} {c : Char} {rest : List Char}
    (within : ∀ piece ∈ splitting.pieces, piece ⊆ rest) :
    ∀ piece ∈ (splitting.prepend c).pieces, piece ⊆ c :: rest := by
  intro piece member
  rcases List.mem_cons.mp member with rfl | later
  · exact List.cons_subset_cons c (within _ List.mem_cons_self)
  · exact List.Subset.trans (within piece (List.mem_cons_of_mem _ later)) (List.subset_cons_self c rest)

/-- No clause has a character that the filter does not have. -/
theorem splitClauses_subset (quote : Option Char) (s : List Char) :
    ∀ piece ∈ (splitClauses quote s).pieces, piece ⊆ s := by
  fun_induction splitClauses quote s with
  | case1 =>
    intro piece member
    cases List.mem_singleton.mp member
    exact List.Subset.refl []
  | case2 d rest q ih => exact Splitting.pieces_prepend_subset (Splitting.pieces_prepend_subset ih)
  | case3 c rest q _ ih => exact Splitting.pieces_prepend_subset ih
  | case4 c rest _ ih => exact Splitting.pieces_prepend_subset ih
  | case5 c rest _ j after found _ tail ih =>
    intro piece member
    rcases List.mem_cons.mp member with rfl | later
    · exact List.nil_subset _
    · exact List.Subset.trans (ih piece later) (junction?_subset found)
  | case6 c rest _ _ ih => exact Splitting.pieces_prepend_subset ih

/-- Where every i is an ordinary one, every operator stands for a test. The clauses of a filter have
no characters but those of the filter. -/
theorem Filter.hasOddI_of_parse {text : String} {filter : Filter} {clause : Clause} {name : String}
    (run : Filter.parse text = .ok filter) (member : clause ∈ filter.clauses)
    (unknown : clause.operator = .unknown name) : HasOddI text.toList := by
  unfold Filter.parse at run
  split at run
  · cases run
  · dsimp only at run
    split at run
    · cases run
    · obtain ⟨clauses, read, same⟩ := bind_eq_ok_iff.mp run
      cases same
      obtain ⟨piece, written, parsed⟩ := exists_of_mem_mapM read member
      have odd := Clause.hasOddI_of_parse parsed unknown
      refine odd.of_subset fun c inside => trim_subset text.toList ?_
      exact splitClauses_subset none _ piece written inside

end GuardedRecords
