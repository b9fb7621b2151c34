import Mathlib.Data.List.Infix
import GuardedRecords.Query.Shape
import GuardedRecords.Proofs.Outcomes

namespace GuardedRecords

/-- The items that are akin to none of the items before them. -/
def firstOfKind {α : Type} (akin : α → α → Bool) (items : List α) : List α :=
  ((items.zip items.inits).filter fun entry => !entry.2.any fun earlier => akin earlier entry.1).map Prod.fst

section Loop

variable {properties : List String}

/-- Going through records fails for one reason only. -/
theorem unwritable_of_firstOfEach {seen : List (List Char)} {records : List Record}
    {fault : Failure} (failed : firstOfEach properties seen records = .error fault) :
    fault = .unwritableInteger := by
  induction records generalizing seen with
  | nil => cases failed
  | cons r rest ih =>
    rw [firstOfEach] at failed
    rcases bind_eq_error_iff.mp failed with unmarked | ⟨marker, _, later⟩
    · rw [Record.marker] at unmarked
      split at unmarked
      · cases unmarked
      · exact (Except.error.inj unmarked).symm
    · split at later
      · exact ih later
      · exact ih (bind_ok_eq_error_iff.mp later)

/-- Going through records keeps those with a marker that no record before them has. The induction
is on the records that are left; the markers that have been seen are those of the ones before. -/
theorem firstOfEach_eq {key : Record → List Char} {seen : List (List Char)}
    {before records : List Record} (known : ∀ marker, marker ∈ seen ↔ marker ∈ before.map key)
    (marked : ∀ r ∈ records, r.marker properties = .ok (key r)) :
    firstOfEach properties seen records =
      .ok (((records.zip (records.inits.map (before ++ ·))).filter fun entry =>
        !entry.2.any fun earlier => key earlier == key entry.1).map Prod.fst) := by
  induction records generalizing before seen with
  | nil => rfl
  | cons r rest ih =>
    have pairs : (r :: rest).zip ((r :: rest).inits.map (before ++ ·)) =
        (r, before) :: rest.zip (rest.inits.map (before ++ [r] ++ ·)) := by
      simp [Function.comp_def]
    have others : ∀ s ∈ rest, s.marker properties = .ok (key s) :=
      fun s member => marked s (List.mem_cons_of_mem r member)
    have old : (before.any fun earlier => key earlier == key r) = true ↔ key r ∈ seen := by
      simp [known]
    rw [pairs, firstOfEach, marked r List.mem_cons_self, ok_bind]
    split
    · next again =>
      -- The record is left out, and its marker is one of those seen already.
      have same : ∀ marker, marker ∈ seen ↔ marker ∈ (before ++ [r]).map key := by
        intro marker
        rw [known, List.map_append, List.mem_append]
        constructor
        · exact .inl
        · rintro (inside | last)
          · exact inside
          · exact (known marker).mp (List.mem_singleton.mp last ▸ again)
      rw [ih same others, List.filter_cons_of_neg (by simp only [old.mpr again]; decide)]
    · next new =>
      -- The record is kept, and its marker is seen from now on.
      have more : ∀ marker, marker ∈ key r :: seen ↔ marker ∈ (before ++ [r]).map key := by
        intro marker
        rw [List.mem_cons, known, List.map_append, List.mem_append, or_comm]
        exact or_congr_right List.mem_singleton.symm
      have unseen : (before.any fun earlier => key earlier == key r) = false :=
        Bool.eq_false_iff.mpr fun again => new (old.mp again)
      rw [ih more others, List.filter_cons_of_pos (by simp only [unseen]; decide)]
      rfl

end Loop

/-- Only an integer with too many digits can keep records from being told apart, since it cannot be
written. -/
theorem QuerySpec.unwritable_of_keepDistinct {spec : QuerySpec} {page : List Record}
    {fault : Failure} (failed : spec.keepDistinct page = .error fault) :
    fault = .unwritableInteger := by
  rw [QuerySpec.keepDistinct] at failed
  split at failed
  · cases failed
  · exact unwritable_of_firstOfEach failed

end GuardedRecords
