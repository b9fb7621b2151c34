import GuardedRecords.Proofs.RecordMarkers
import GuardedRecords.Proofs.SortedTexts

namespace GuardedRecords

/-- Whether two records agree on all the properties; a missing one counts as `null`. -/
def Record.sameOn (properties : List String) (a b : Record) : Bool :=
  properties.all fun p => (a.field p).same (b.field p)

section Markers

variable {properties : List String} {a b : Record}

theorem itemsSame_map_field (properties : List String) (a b : Record) :
    itemsSame (properties.map a.field) (properties.map b.field) = a.sameOn properties b := by
  induction properties with
  | nil => rfl
  | cons p rest ih =>
    rw [List.map_cons, List.map_cons, itemsSame, ih]
    rfl

/-- A missing property counts as `null`, which is plain, so only the properties that are there need
to be looked at. -/
theorem plain_fields (plain : ∀ p ∈ properties, (a.field p).Plain) :
    (Value.array (properties.map a.field)).Plain := by
  rw [Value.Plain, itemsPlain_iff, List.forall_mem_map]
  exact plain

/-- The text that a marker is made of. -/
def Record.markerText (properties : List String) (record : Record) : List Char :=
  (Value.array (properties.map record.field)).inNameOrder.writeIn .ascii

/-- Without binary64 numbers and with integers that are short enough the marker can always be
written. -/
theorem Record.marker_eq (plain : ∀ p ∈ properties, (a.field p).Plain) :
    a.marker properties = .ok (a.markerText properties) := by
  rw [Record.marker, (plain_fields plain).sortedText?_eq]
  rfl

/-- Markers tell records apart just when they do not agree: the text of an array of plain values can
be read back, so it has all of the values in it. -/
theorem Record.markerText_eq_iff (plain : ∀ p ∈ properties, (a.field p).Plain)
    (other : ∀ p ∈ properties, (b.field p).Plain) :
    a.markerText properties = b.markerText properties ↔ a.sameOn properties b = true := by
  have told := Value.Plain.sortedText?_eq_iff (plain_fields plain) (plain_fields other)
  rw [(plain_fields plain).sortedText?_eq, (plain_fields other).sortedText?_eq,
    Option.some.injEq] at told
  rw [← itemsSame_map_field]
  exact told

end Markers

/-- Telling records apart is the last thing that happens to a page: what is picked is what is kept
of the page that the query without it picks. -/
theorem QuerySpec.pick_eq_keepDistinct {spec : QuerySpec} {records page : List Record}
    (paged : ({ spec with distinct := [] } : QuerySpec).pick records = .ok page) :
    spec.pick records = spec.keepDistinct page := by
  obtain ⟨condition, sortKeys, offset, pageSize, distinct, select, joins, count⟩ := spec
  cases condition with
  | none =>
    obtain ⟨met, unfiltered, paged⟩ := bind_eq_ok_iff.mp paged
    cases unfiltered
    obtain ⟨sorted, arranged, page⟩ := bind_eq_ok_iff.mp paged
    cases page
    simp only [QuerySpec.pick, arranged, ok_bind]
  | some condition =>
    obtain ⟨met, filtered, paged⟩ := bind_eq_ok_iff.mp paged
    obtain ⟨sorted, arranged, page⟩ := bind_eq_ok_iff.mp paged
    cases page
    simp only [QuerySpec.pick, filtered, arranged, ok_bind]

/-- Where the values at the named properties are plain, a query keeps of the records on its page
those that agree on all these properties with none before them. Texts are sequences of characters
here, so none has two surrogates side by side, which a marker would not tell from the character
that they make. -/
theorem QuerySpec.keepDistinct_firsts {spec : QuerySpec} {page : List Record}
    (named : spec.distinct ≠ [])
    (plain : ∀ r ∈ page, ∀ p ∈ spec.distinct, (r.field p).Plain) :
    spec.keepDistinct page = .ok (firstOfKind (Record.sameOn spec.distinct) page) ∧
      ∀ records, ({ spec with distinct := [] } : QuerySpec).pick records = .ok page →
        spec.pick records = .ok (firstOfKind (Record.sameOn spec.distinct) page) := by
  have kept : spec.keepDistinct page = .ok (firstOfKind (Record.sameOn spec.distinct) page) := by
    have none : ∀ marker, marker ∈ [] ↔ marker ∈ [].map (Record.markerText spec.distinct) :=
      fun _ => Iff.rfl
    have run := firstOfEach_eq none fun r member => Record.marker_eq (plain r member)
    rw [QuerySpec.keepDistinct, if_neg (by simpa using named), run, firstOfKind]
    simp only [List.nil_append, List.map_id']
    congr 2
    refine List.filter_congr fun entry member => congrArg (!·) ?_
    obtain ⟨inside, front⟩ := List.of_mem_zip member
    have before : entry.2 ⊆ page := ((List.mem_inits _ _).mp front).subset
    rw [Bool.eq_iff_iff, List.any_eq_true, List.any_eq_true]
    refine exists_congr fun earlier => and_congr_right fun within => ?_
    rw [beq_iff_eq, Record.markerText_eq_iff (plain earlier (before within)) (plain entry.1 inside)]
  exact ⟨kept, fun records paged => (QuerySpec.pick_eq_keepDistinct paged).trans kept⟩

/-- A note with a label, and one that has no label. -/
def labelled (label : Value) : Record := [("label", label)]

def unlabelled : Record := [("title", .text "\"label\": null")]

/-- Whether a label is null or missing does not tell notes apart; the kind of a label does, also where
its text looks like that of another. -/
example : ({ distinct := ["label"] } : QuerySpec).keepDistinct
    [labelled .null, unlabelled, labelled (.text "null")] =
      .ok [labelled .null, labelled (.text "null")] := by
  rfl

end GuardedRecords
