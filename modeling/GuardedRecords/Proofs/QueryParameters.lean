import Mathlib.Data.List.TakeWhile
import GuardedRecords.Proofs.Outcomes
import GuardedRecords.Proofs.RuleText
import GuardedRecords.Query.Spec

namespace GuardedRecords

section Texts

variable {cs word entry : List Char}

/-- The entries of a list are trimmed, and those of which nothing is left are dropped. -/
theorem bareEnds_of_mem_listEntries {s : String} (member : entry ∈ listEntries s) :
    BareEnds entry := by
  obtain ⟨inside, some⟩ := List.mem_filter.mp member
  obtain ⟨piece, -, rfl⟩ := List.mem_map.mp inside
  exact bareEnds_trim (by simpa using some)

/-- `word` is what has been read of a word, the last character first. -/
theorem bare_of_mem_go (bare : ∀ c ∈ word, isBlank c = false) :
    ∀ w ∈ words.go word cs, w ≠ [] ∧ ∀ c ∈ w, isBlank c = false := by
  induction cs generalizing word with
  | nil =>
    intro w member
    rw [words.go] at member
    split at member
    · cases member
    · next some =>
      obtain rfl := List.mem_singleton.mp member
      exact ⟨by simpa using some, fun c inside => bare c (List.mem_reverse.mp inside)⟩
  | cons c rest ih =>
    intro w member
    rw [words.go] at member
    split at member
    · split at member
      · exact ih (List.forall_mem_nil _) w member
      · next some =>
        rcases List.mem_cons.mp member with rfl | later
        · exact ⟨by simpa using some, fun c inside => bare c (List.mem_reverse.mp inside)⟩
        · exact ih (List.forall_mem_nil _) w later
    · next inside =>
      exact ih (List.forall_mem_cons.mpr ⟨Bool.eq_false_iff.mpr inside, bare⟩) w member

theorem bareEnds_of_mem_words (member : word ∈ words cs) : BareEnds word := by
  obtain ⟨some, bare⟩ := bare_of_mem_go (List.forall_mem_nil _) word member
  exact bareEnds_of_forall some bare

theorem words_ne_nil {c : Char} (bare : isBlank c = false) (rest : List Char) :
    words (c :: rest) ≠ [] := by
  have pending (cs : List Char) : ∀ word, word ≠ [] → words.go word cs ≠ [] := by
    induction cs with
    | nil => intro word some; simp [words.go, some]
    | cons d rest ih =>
      intro word some
      rw [words.go]
      split
      · simp [some]
      · exact ih _ (List.cons_ne_nil _ _)
  rw [words, words.go, if_neg (by rw [bare]; exact Bool.false_ne_true)]
  exact pending rest [c] (List.cons_ne_nil _ _)

theorem SortKey.bareEnds_parse (bare : BareEnds entry) :
    BareEnds (SortKey.parse entry).property.toList := by
  obtain ⟨c, rest, rfl, first⟩ := bare.first
  obtain ⟨word, more, split⟩ := List.exists_cons_of_ne_nil (words_ne_nil first rest)
  have member : word ∈ words (c :: rest) := split ▸ List.mem_cons_self
  have property : (SortKey.parse (c :: rest)).property = String.ofList word := by
    simp only [SortKey.parse, split, List.map_cons, List.headD_cons]
  rw [property, String.toList_ofList]
  exact bareEnds_of_mem_words member

end Texts

section Joins

variable {separator : Char} {cs before after entry property source collection : List Char}
  {join : Join}

theorem cut_append (apart : separator ∉ before) (after : List Char) :
    cut separator (before ++ separator :: after) = (before, after) := by
  have other : ∀ c ∈ before, decide (c ≠ separator) = true :=
    fun c member => decide_eq_true fun same => apart (same ▸ member)
  have stops : ∀ c ∈ (separator :: after).head?, decide (c ≠ separator) = false := by
    rintro c ⟨⟩
    exact decide_eq_false fun different => different rfl
  rw [cut, takeWhile_append_of_head other stops, dropWhile_append_of_head other stops]
  rfl

theorem exists_of_cut (split : cut separator cs = (before, after)) (some : after ≠ []) :
    cs = before ++ separator :: after ∧ separator ∉ before := by
  obtain ⟨rfl, rfl⟩ := Prod.mk.inj split
  have whole := List.takeWhile_append_dropWhile (p := (· ≠ separator)) (l := cs)
  have apart : separator ∉ cs.takeWhile (· ≠ separator) := by
    intro member
    simpa using List.mem_takeWhile_imp member
  cases rest : cs.dropWhile (· ≠ separator) with
  | nil => exact absurd (by rw [rest]; rfl) some
  | cons c more =>
    have stops := List.head?_dropWhile_not (· ≠ separator) cs
    rw [rest] at stops
    obtain rfl : c = separator := by simpa using stops
    rw [rest] at whole
    exact ⟨whole.symm, apart⟩

/-- An entry with a property, a source and a collection is read as these three, trimmed, unless one
of them is empty before it is trimmed. -/
theorem Join.parse_append (property source collection : List Char) (equal : '=' ∉ property)
    (colon : ':' ∉ source) :
    Join.parse (property ++ '=' :: (source ++ ':' :: collection)) =
      if property.isEmpty || source.isEmpty || collection.isEmpty then
        .error (.request (.badLoad (String.ofList (property ++ '=' :: (source ++ ':' :: collection)))))
      else .ok ⟨String.ofList (trim property), String.ofList (trim source),
        String.ofList (trim collection)⟩ := by
  simp only [Join.parse, cut_append equal, cut_append colon]

/-- An entry that is read as a join is cut at the first equal sign and at the first colon behind
that. -/
theorem Join.exists_parts (read : Join.parse entry = .ok join) :
    ∃ property source collection, entry = property ++ '=' :: (source ++ ':' :: collection) ∧
      '=' ∉ property ∧ ':' ∉ source ∧ property ≠ [] ∧ source ≠ [] ∧ collection ≠ [] ∧
      join = ⟨String.ofList (trim property), String.ofList (trim source),
        String.ofList (trim collection)⟩ := by
  obtain ⟨property, relation, first⟩ : ∃ property relation, cut '=' entry = (property, relation) :=
    ⟨_, _, rfl⟩
  obtain ⟨source, collection, second⟩ : ∃ source collection, cut ':' relation = (source, collection) :=
    ⟨_, _, rfl⟩
  simp only [Join.parse, first, second] at read
  split at read
  · cases read
  · next filled =>
    cases read
    simp only [Bool.or_eq_true, List.isEmpty_iff, not_or] at filled
    obtain ⟨⟨named, sourced⟩, collected⟩ := filled
    obtain ⟨rfl, colon⟩ := exists_of_cut second collected
    obtain ⟨rfl, equal⟩ := exists_of_cut first (by simp)
    exact ⟨property, source, collection, rfl, equal, colon, named, sourced, collected, rfl⟩

/-- An entry with three parts, of which none is empty. Nothing is trimmed here. -/
def ThreeParts (entry : List Char) : Prop :=
  ∃ property source collection, entry = property ++ '=' :: (source ++ ':' :: collection) ∧
    '=' ∉ property ∧ ':' ∉ source ∧ property ≠ [] ∧ source ≠ [] ∧ collection ≠ []

theorem Join.parse_error {fault : ServiceError} (refused : Join.parse entry = .error fault) :
    ¬ThreeParts entry ∧ fault = .request (.badLoad (String.ofList entry)) := by
  constructor
  · rintro ⟨property, source, collection, rfl, equal, colon, named, sourced, collected⟩
    rw [Join.parse_append property source collection equal colon, if_neg] at refused
    · cases refused
    · simp [named, sourced, collected]
  · simp only [Join.parse] at refused
    split at refused
    · cases refused
      rfl
    · cases refused

/-- An entry with nothing but blanks, one at least, in the place of the source. -/
def BlankSource (entry : List Char) : Prop :=
  ∃ property source collection, entry = property ++ '=' :: (source ++ ':' :: collection) ∧
    '=' ∉ property ∧ source ≠ [] ∧ Blanks source

theorem Blanks.no_colon (blank : Blanks source) : ':' ∉ source := by
  intro member
  have bare : isBlank ':' = false := by decide +kernel
  rw [blank ':' member] at bare
  cases bare

/-- A join has an empty source exactly if blanks stand in its place, since emptiness is asked before
blanks are removed. -/
theorem Join.source_eq_empty_iff (read : Join.parse entry = .ok join) :
    join.source = "" ↔ BlankSource entry := by
  constructor
  · intro none
    obtain ⟨property, source, collection, rfl, equal, -, -, some, -, rfl⟩ := Join.exists_parts read
    have trimmed : trim source = [] := by simpa using congrArg String.toList none
    exact ⟨property, source, collection, rfl, equal, some, trim_eq_nil_iff.mp trimmed⟩
  · rintro ⟨property, source, collection, rfl, equal, some, blank⟩
    -- There is no colon among blanks, so these are the parts that the entry is cut into.
    rw [Join.parse_append property source collection equal blank.no_colon] at read
    split at read
    · cases read
    · cases read
      simp [trim_eq_nil_iff.mpr blank]

/-- The parts of a join have no blanks at their ends, but the source may be empty: its blanks are
removed after it has been looked at. -/
theorem Join.bareEnds_parse (bare : BareEnds entry) (read : Join.parse entry = .ok join) :
    BareEnds join.property.toList ∧ BareEnds join.collection.toList ∧
      (join.source ≠ "" → BareEnds join.source.toList) := by
  obtain ⟨property, source, collection, rfl, -, -, named, -, collected, rfl⟩ := Join.exists_parts read
  have regrouped : BareEnds ((property ++ '=' :: (source ++ [':'])) ++ collection) := by
    simpa using bare
  simp only [String.toList_ofList]
  refine ⟨bareEnds_trim (bare.trim_left_ne_nil named),
    bareEnds_trim (regrouped.trim_right_ne_nil collected), fun some => bareEnds_trim ?_⟩
  intro none
  exact some (by rw [none])

end Joins

/-- What holds of all that can be asked for in the parameters of a request. A join may have an empty
source, and does just when blanks stand in its place. -/
structure QuerySpec.AskedBy (spec : QuerySpec) (params : Params) : Prop where
  offset : (spec.offset : Int) = max (integerPart ((params.lookup? "offset").getD "")) 0
  sized : spec.pageSize.isSome = params.has "pageSize"
  positive : ∀ size ∈ spec.pageSize, 1 ≤ size
  sortKeys : ∀ key ∈ spec.sortKeys, BareEnds key.property.toList
  distinct : ∀ name ∈ spec.distinct, BareEnds name.toList
  select : ∀ name ∈ spec.select, BareEnds name.toList
  joins : ∀ join ∈ spec.joins, BareEnds join.property.toList ∧ BareEnds join.collection.toList ∧
    (join.source ≠ "" → BareEnds join.source.toList)
  breaks_iff : (∃ join ∈ spec.joins, join.source = "") ↔
    ∃ entry ∈ listEntries ((params.lookup? "load").getD ""), BlankSource entry

section Parameters

variable {params : Params} {default : Int}

theorem one_le_of_mem_pageSizeOf (positive : 1 ≤ default) :
    ∀ size ∈ pageSizeOf params default, 1 ≤ size := by
  intro size member
  obtain ⟨text, -, rfl⟩ := Option.map_eq_some_iff.mp member
  dsimp only
  split
  · exact positive
  · omega

theorem conditionOf_error {fault : ServiceError} (refused : conditionOf params = .error fault) :
    ∃ text cause, params.lookup? "where" = some text ∧ Filter.parse text = .error cause ∧
      fault = .filter cause := by
  unfold conditionOf at refused
  split at refused
  · cases refused
  · next text given =>
    split at refused
    · cases refused
    · obtain ⟨cause, unread, rfl⟩ := mapError_eq_error_iff.mp refused
      exact ⟨text, cause, given, map_eq_error_iff.mp unread, rfl⟩

theorem bareEnds_of_mem_entryNames {s name : String}
    (member : name ∈ (listEntries s).map String.ofList) : BareEnds name.toList := by
  obtain ⟨entry, inside, rfl⟩ := List.mem_map.mp member
  rw [String.toList_ofList]
  exact bareEnds_of_mem_listEntries inside

/-- Whatever is read from parameters is within what can be asked. Each part of the query is read by
itself, so the parts are settled one after the other. -/
theorem QuerySpec.askedBy_of_ofParams (positive : 1 ≤ default) {spec : QuerySpec}
    (run : QuerySpec.ofParams params default = .ok spec) : spec.AskedBy params := by
  obtain ⟨condition, -, run⟩ := bind_eq_ok_iff.mp run
  obtain ⟨joins, read, same⟩ := bind_eq_ok_iff.mp run
  cases same
  constructor
  case offset => exact Int.toNat_eq_max _
  case sized => exact Option.isSome_map ..
  case positive => exact one_le_of_mem_pageSizeOf positive
  case sortKeys =>
    intro key member
    obtain ⟨entry, inside, rfl⟩ := List.mem_map.mp member
    exact SortKey.bareEnds_parse (bareEnds_of_mem_listEntries inside)
  case distinct => exact fun name => bareEnds_of_mem_entryNames
  case select => exact fun name => bareEnds_of_mem_entryNames
  case joins =>
    intro join member
    obtain ⟨entry, inside, parsed⟩ := exists_of_mem_mapM read member
    exact Join.bareEnds_parse (bareEnds_of_mem_listEntries inside) parsed
  case breaks_iff =>
    constructor
    · rintro ⟨join, member, none⟩
      obtain ⟨entry, inside, parsed⟩ := exists_of_mem_mapM read member
      exact ⟨entry, inside, (Join.source_eq_empty_iff parsed).mp none⟩
    · rintro ⟨entry, inside, blank⟩
      obtain ⟨join, member, parsed⟩ := exists_mem_of_mapM read inside
      exact ⟨join, member, (Join.source_eq_empty_iff parsed).mpr blank⟩

end Parameters

/-- The parameters of a request are refused for a filter that cannot be read or for an entry of `load`
without three parts, and for nothing else. What they ask for otherwise has an offset and a size of the
page as they must be, and names without blanks around them; only the source of a join may be left
empty. -/
theorem QuerySpec.ofParams_outcomes {default : Int} (positive : 1 ≤ default) (params : Params) :
    (∃ text fault, params.lookup? "where" = some text ∧ Filter.parse text = .error fault ∧
      QuerySpec.ofParams params default = .error (.filter fault)) ∨
    (∃ entry ∈ listEntries ((params.lookup? "load").getD ""), ¬ThreeParts entry ∧
      QuerySpec.ofParams params default = .error (.request (.badLoad (String.ofList entry)))) ∨
    ∃ spec, QuerySpec.ofParams params default = .ok spec ∧ spec.AskedBy params := by
  cases run : QuerySpec.ofParams params default with
  | ok spec => exact .inr (.inr ⟨spec, rfl, QuerySpec.askedBy_of_ofParams positive run⟩)
  | error fault =>
    rcases bind_eq_error_iff.mp run with refused | ⟨condition, -, run⟩
    · obtain ⟨text, cause, given, unread, rfl⟩ := conditionOf_error refused
      exact .inl ⟨text, cause, given, unread, rfl⟩
    · obtain ⟨entry, inside, refused⟩ := exists_of_mapM_error (bind_ok_eq_error_iff.mp run)
      obtain ⟨unfit, rfl⟩ := Join.parse_error refused
      exact .inr (.inl ⟨entry, inside, unfit, rfl⟩)

/-- A page of a size that is no number, from before the first record on, with blanks and commas that
do not count. -/
def adornedParams : Params :=
  [("sortBy", " price  DESC ,, title"), ("offset", "-2"), ("pageSize", "nan"),
    ("select", "_id, price"), ("load", "author = _ownerId :users")]

def adornedQuery : QuerySpec where
  sortKeys := [⟨"price", true⟩, ⟨"title", false⟩]
  pageSize := some 10
  select := ["_id", "price"]
  joins := [⟨"author", "_ownerId", "users"⟩]

theorem QuerySpec.ofParams_outcomes_adorned :
    (1 : Int) ≤ 10 ∧ QuerySpec.ofParams adornedParams 10 = .ok adornedQuery ∧
      adornedQuery.AskedBy adornedParams := by
  have run : QuerySpec.ofParams adornedParams 10 = .ok adornedQuery := rfl
  have positive : (1 : Int) ≤ 10 := by decide
  refine ⟨positive, run, ?_⟩
  rcases QuerySpec.ofParams_outcomes positive adornedParams with
    ⟨_, _, _, _, refused⟩ | ⟨_, _, _, refused⟩ | ⟨spec, found, asked⟩
  · cases run.symm.trans refused
  · cases run.symm.trans refused
  · obtain rfl := Except.ok.inj (run.symm.trans found)
    exact asked

/-- The three parts are looked at before they are trimmed, so that a blank is taken for a source.
The join that comes of it never finds anything. -/
theorem QuerySpec.ofParams_blankSource :
    ∃ spec, QuerySpec.ofParams [("load", "a= :c")] 10 = .ok spec ∧
      ∃ join ∈ spec.joins, join.source = "" :=
  ⟨{ joins := [⟨"a", "", "c"⟩] }, rfl, _, List.mem_singleton_self _, rfl⟩

end GuardedRecords
