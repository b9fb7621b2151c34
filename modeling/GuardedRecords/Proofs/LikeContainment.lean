import GuardedRecords.Filter.Matching
import GuardedRecords.Proofs.LikeClauses
import GuardedRecords.Proofs.LowerCase

namespace GuardedRecords

section Finding

variable {property part : String} {record : Record}

theorem likeFilter_matches (property part : String) (record : Record) :
    (likeFilter property part).matches record =
      .ok ((record.field property).isLike (.text part)) := by
  have met : meetsAll record (likeFilter property part).clauses =
      .ok ((record.field property).isLike (.text part)) := by
    simp only [likeFilter, meetsAll, Clause.matches, FilterOperator.test?]
    cases (record.field property).isLike (.text part) <;> rfl
  exact met

/-- The part is sought in a text without regard to the case of either. -/
theorem likeFilter_matches_iff : (likeFilter property part).matches record = .ok true ↔
    ∃ s : String, record.field property = .text s ∧
      lowerChars part.toList <:+: lowerChars s.toList := by
  rw [likeFilter_matches, Except.ok.injEq]
  cases record.field property with
  | text s => simp [Value.isLike, occursIn_iff]
  | _ => simp [Value.isLike]

/-- On a stored text the filter looks for the letters of the part among those of the text, both in
lower case. -/
theorem likeFilter_matches_of_text {s : String} (stored : record.field property = .text s) :
    (likeFilter property part).matches record = .ok true ↔
      lowerChars part.toList <:+: lowerChars s.toList := by
  simp [likeFilter_matches_iff, stored]

theorem toList_around (left part right : String) :
    (left ++ part ++ right).toList = left.toList ++ part.toList ++ right.toList := by
  rw [String.toList_append, String.toList_append]

theorem field_singleton (property : String) (value : Value) :
    Record.field [(property, value)] property = value := by
  simp [Record.field, Table.lookup?]

/-- A part is found in lower case within a longer text if its capital sigmas get the same small
letter there as they do alone. -/
theorem SigmasAlike.lowerChars_around {left right : String}
    (alike : SigmasAlike left.toList.reverse right.toList part.toList) :
    lowerChars part.toList <:+: lowerChars (left ++ part ++ right).toList := by
  have within := lowerChars_infix left.toList part.toList right.toList
  rwa [alike.lowerBetween_eq, ← toList_around] at within

/-- A part is found in lower case within all texts around it exactly if it has no capital sigma
whose small letter depends on what surrounds the part. -/
theorem lowerChars_around_iff : (∀ left right : String,
    lowerChars part.toList <:+: lowerChars (left ++ part ++ right).toList) ↔
      ¬LooseSigma part.toList := by
  constructor
  · intro always loose
    obtain ⟨left, right, apart⟩ := loose.exists_not_infix
    have within := always (String.ofList left) (String.ofList right)
    rw [toList_around, String.toList_ofList, String.toList_ofList] at within
    exact apart within
  · exact fun settled left right => (sigmasAlike_of_not_looseSigma settled _ _).lowerChars_around

/-- What the filter says of records that have the part in the property, or of which it says that they
have a longer one. -/
structure LikeFinds (property part : String) : Prop where
  here : ∀ (record : Record) (left right : String),
    record.field property = .text (left ++ part ++ right) →
    SigmasAlike left.toList.reverse right.toList part.toList →
    (likeFilter property part).matches record = .ok true
  everywhere : (∀ (record : Record) (left right : String),
    record.field property = .text (left ++ part ++ right) →
    (likeFilter property part).matches record = .ok true) ↔ ¬LooseSigma part.toList
  shortened : (∀ (record : Record) (left right : String),
    (likeFilter property (left ++ part ++ right)).matches record = .ok true →
    (likeFilter property part).matches record = .ok true) ↔ ¬LooseSigma part.toList

theorem likeFilter_everywhere_iff : (∀ (record : Record) (left right : String),
    record.field property = .text (left ++ part ++ right) →
    (likeFilter property part).matches record = .ok true) ↔ ¬LooseSigma part.toList := by
  rw [← lowerChars_around_iff]
  constructor
  · intro always left right
    have stored := field_singleton property (.text (left ++ part ++ right))
    exact (likeFilter_matches_of_text stored).mp (always _ left right stored)
  · exact fun within record left right stored =>
      (likeFilter_matches_of_text stored).mpr (within left right)

/-- A filter for a shorter part finds all that one for a longer part finds exactly if the shorter
part has no such sigma. -/
theorem likeFilter_shortened_iff : (∀ (record : Record) (left right : String),
    (likeFilter property (left ++ part ++ right)).matches record = .ok true →
    (likeFilter property part).matches record = .ok true) ↔ ¬LooseSigma part.toList := by
  rw [← lowerChars_around_iff]
  constructor
  · intro always left right
    have stored := field_singleton property (.text (left ++ part ++ right))
    have longer := (likeFilter_matches_of_text stored).mpr List.infix_rfl
    exact (likeFilter_matches_of_text stored).mp (always _ left right longer)
  · intro within record left right longer
    obtain ⟨s, stored, longer⟩ := likeFilter_matches_iff.mp longer
    exact (likeFilter_matches_of_text stored).mpr ((within left right).trans longer)

/-- Of which properties one can ask in this way, and what the answer is. A part is found wherever it
occurs, and in whatever a longer one is found in, except for parts with a capital sigma that is
lowered in another way when other text stands around it. -/
theorem Filter.parse_like (property : String) :
    (PropertyName property.toList ↔ ∀ part text, LikeText property part text →
      Filter.parse text = .ok (likeFilter property part)) ∧
      ∀ part, LikeFinds property part := by
  refine ⟨⟨fun name part text read => name.parse_eq read, propertyName_of_parse⟩, fun part => ?_⟩
  exact {
    here := fun record left right stored alike =>
      (likeFilter_matches_of_text stored).mpr alike.lowerChars_around
    everywhere := likeFilter_everywhere_iff
    shortened := likeFilter_shortened_iff }

/-- A part that ends in a capital sigma is not found before a letter, though it stands there and
though a longer part is found. -/
theorem Filter.like_misses_sigma :
    PropertyName "title".toList ∧
      Filter.parse "title like \"ΑΣ\"" = .ok (likeFilter "title" "ΑΣ") ∧
      Filter.parse "title like \"ΑΣΑ\"" = .ok (likeFilter "title" "ΑΣΑ") ∧
      "" ++ "ΑΣ" ++ "Α" = "ΑΣΑ" ∧
      (likeFilter "title" "ΑΣ").matches [("title", .text "ΑΣΑ")] = .ok false ∧
      (likeFilter "title" "ΑΣΑ").matches [("title", .text "ΑΣΑ")] = .ok true := by
  have word : PropertyName "title".toList :=
    propertyName_of_word (by decide) (forall_mem_of_decide (by decide))
  have part : lowerChars "ΑΣ".toList = "ας".toList := by decide +kernel
  have whole : lowerChars "ΑΣΑ".toList = "ασα".toList := by decide +kernel
  refine ⟨word, by cbv, by cbv, by decide, ?_, ?_⟩
  · rw [likeFilter_matches, field_singleton, Value.isLike, part, whole]
    decide
  · rw [likeFilter_matches, field_singleton, Value.isLike, whole]
    decide

end Finding

end GuardedRecords
