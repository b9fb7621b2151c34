import GuardedRecords.CommandLine
import GuardedRecords.Proofs.PolicyFlaws
import GuardedRecords.Proofs.ReadingStops
import GuardedRecords.Proofs.Utf8Decoding

namespace GuardedRecords

section Reading

/-- A text is refused for an integer that is too long as its characters are. A text that begins
with a byte order mark is refused for the mark, before any integer. -/
theorem Value.read_overlongInteger_iff {cs : List Char} {size : Nat} :
    (∃ offset, Value.read (String.ofList cs) = .error ⟨.overlongInteger size, offset⟩) ↔
      ∃ rest, readChars cs = .error ⟨.overlongInteger size, rest⟩ := by
  unfold Value.read
  rw [String.toList_ofList]
  dsimp only
  split
  · next more =>
    rw [readChars_byteOrderMark]
    constructor
    · rintro ⟨offset, ⟨⟩⟩
    · rintro ⟨rest, ⟨⟩⟩
  · constructor
    · rintro ⟨offset, read⟩
      obtain ⟨⟨fault, rest⟩, stopped, same⟩ := mapError_eq_error_iff.mp read
      cases same
      exact ⟨rest, stopped⟩
    · rintro ⟨rest, stopped⟩
      rw [stopped]
      exact ⟨_, rfl⟩

end Reading

section Surrogates

/-- The units that a JSON text is made of when its escapes are taken for what they give. In a text
that can be read there are escapes between quotes only. -/
def unitsOf : List Char → List TextUnit
  | '\\' :: 'u' :: a :: b :: c :: d :: rest =>
    match hexNumber? [a, b, c, d] with
    | some n => .code n :: unitsOf rest
    | none => .char 'u' :: unitsOf rest
  | '\\' :: c :: rest => .char c :: unitsOf rest
  | c :: rest => .char c :: unitsOf rest
  | [] => []

/-- Whether one of the units is a surrogate that makes no character with its neighbour. -/
def holdLoneSurrogate : List TextUnit → Bool
  | [] => false
  | .char _ :: rest => holdLoneSurrogate rest
  | .code n :: .code m :: rest =>
    if 0xD800 ≤ n ∧ n < 0xDC00 ∧ 0xDC00 ≤ m ∧ m < 0xE000 then holdLoneSurrogate rest
    else 0xD800 ≤ n && n < 0xE000 || holdLoneSurrogate (.code m :: rest)
  | .code n :: rest => 0xD800 ≤ n && n < 0xE000 || holdLoneSurrogate rest

end Surrogates

/-- The bytes of a document some text of which is not made of characters: an escape in it gives a
surrogate that stands alone. What is read in the place of such a text is not what it says. -/
def LoneSurrogateContent (content : Bytes) : Prop :=
  ∃ chars : List Char, content = chars.flatMap String.utf8EncodeChar ∧
    holdLoneSurrogate (unitsOf (unifyLineEnds chars)) = true

/-- What the bytes of a document can be that nobody foresaw: they are not those of any text, the
text has an integer that is too long where the text before it breaks off for want of a value, or
the first flaw of the policy is a container among the roles of a rule. -/
inductive UnforeseenContent (content : Bytes) : Prop
  | notText (undecodable : ∀ chars : List Char, content ≠ chars.flatMap String.utf8EncodeChar)
  | overlongInteger {chars before number rest : List Char} {size : Nat}
      (encoded : content = chars.flatMap String.utf8EncodeChar)
      (text : unifyLineEnds chars = before ++ (number ++ rest))
      (broken : readChars before = .error ⟨.expectedValue, []⟩)
      (overlong : OverlongInteger number size) (ends : StopsNumber rest)
  | containerAsRole {chars : List Char} {members : Record} {isArray : Bool}
      (encoded : content = chars.flatMap String.utf8EncodeChar)
      (whole : ¬LoneSurrogateContent content)
      (read : Value.read (String.ofList (unifyLineEnds chars)) = .ok (.object members))
      (first : (Value.object members).policyFlaws.head? = some (.containerAsRole isArray))

/-- What nobody foresaw in a document that is a text, by what its characters are read as. -/
def UnforeseenReading (cs : List Char) : Prop :=
  (∃ size offset, Value.read (String.ofList cs) = .error ⟨.overlongInteger size, offset⟩) ∨
    ∃ members isArray, Value.read (String.ofList cs) = .ok (.object members) ∧
      (Value.object members).policyFlaws.head? = some (.containerAsRole isArray)

section Documents

variable {path : String} {content : Bytes} {chars : List Char}

/-- Bytes that are those of no text cannot be read as a document, and the fault is the one of
decoding. -/
theorem Document.members_undecodable (path : String)
    (undecodable : ∀ chars : List Char, content ≠ chars.flatMap String.utf8EncodeChar) :
    ∃ fault, (Document.mk path (.ok content)).members = .error (.notText fault) := by
  cases decoded : decodeUtf8 content with
  | ok chars => exact absurd (decodeUtf8_eq_ok_iff.mp decoded) (undecodable chars)
  | error fault =>
    refine ⟨fault, ?_⟩
    simp only [Document.members, ok_mapError, ok_bind, decoded, error_mapError, error_bind]

/-- A document that is a text is read from its characters, with all ends of lines made alike
first. -/
theorem Document.members_encoded (encoded : content = chars.flatMap String.utf8EncodeChar) :
    (Document.mk path (.ok content)).members =
      membersOfText (Document.mk path (.ok content)).path (String.ofList (unifyLineEnds chars)) := by
  simp only [Document.members, ok_mapError, ok_bind, decodeUtf8_eq_ok_iff.mpr encoded]

theorem Document.policy_of_members_error {document : Document} {fault : DocumentFault}
    (failed : document.members = .error fault) : document.policy = .error fault := by
  rw [Document.policy, failed, error_bind]

/-- A policy is read when it has no flaws; else its first flaw is what is wrong with it. The order
of the flaws is that of the checks. -/
theorem Document.policy_of_members {document : Document} {members : Record}
    (read : document.members = .ok members) :
    ((Value.object members).policyFlaws = [] ∧ ∃ policy, document.policy = .ok policy) ∨
      ∃ flaw, (Value.object members).policyFlaws.head? = some flaw ∧
        document.policy = .error (.badPolicy flaw) := by
  have first := RuleSet.ofConfig_failsWithFirst (.object members)
  rw [Document.policy, read, ok_bind]
  cases made : RuleSet.ofConfig (.object members) with
  | ok policy => exact .inl ⟨first.eq_nil made, policy, rfl⟩
  | error flaw =>
    rw [made] at first
    exact .inr ⟨flaw, first, rfl⟩

theorem DocumentFault.badPolicy_unreported_iff {flaw : ConfigFault} :
    (DocumentFault.badPolicy flaw).isReported = false ↔
      ∃ isArray, flaw = .containerAsRole isArray := by
  cases flaw <;> simp [DocumentFault.isReported]

theorem eq_of_encoded {others : List Char} (encoded : content = chars.flatMap String.utf8EncodeChar)
    (again : content = others.flatMap String.utf8EncodeChar) : others = chars := by
  have same := (decodeUtf8_eq_ok_iff.mpr again).symm.trans (decodeUtf8_eq_ok_iff.mpr encoded)
  exact Except.ok.inj same

/-- If the bytes of a text are what nobody foresaw, then its characters are refused for an integer or
read as a policy whose first flaw is a container among roles. -/
theorem UnforeseenContent.readings (encoded : content = chars.flatMap String.utf8EncodeChar)
    (unforeseen : UnforeseenContent content) : UnforeseenReading (unifyLineEnds chars) := by
  cases unforeseen with
  | notText undecodable => exact absurd encoded (undecodable chars)
  | overlongInteger again text broken overlong ends =>
    obtain rfl := eq_of_encoded encoded again
    exact .inl ⟨_, Value.read_overlongInteger_iff.mpr ⟨_, readChars_overlongInteger_iff.mpr
      ⟨_, _, broken, overlong, ends, text⟩⟩⟩
  | containerAsRole again _ read first =>
    obtain rfl := eq_of_encoded encoded again
    exact .inr ⟨_, _, read, first⟩

/-- Whether a document ends the program with an error of another kind than those that are reported
as faults of a document. -/
def Document.Unforeseen (document : Document) : Prop :=
  ∃ fault, document.policy = .error fault ∧ fault.isReported = false

theorem Document.unforeseen_iff_of_error {document : Document} {fault : DocumentFault}
    (failed : document.policy = .error fault) :
    document.Unforeseen ↔ fault.isReported = false := by
  simp [Document.Unforeseen, failed]

theorem Document.unforeseen_of_read_error {offset : Nat} {fault : ReadFault}
    (encoded : content = chars.flatMap String.utf8EncodeChar)
    (read : Value.read (String.ofList (unifyLineEnds chars)) = .error ⟨fault, offset⟩) :
    (Document.mk path (.ok content)).Unforeseen ↔ ∃ size, fault = .overlongInteger size := by
  have members : (Document.mk path (.ok content)).members = _ := Document.members_encoded encoded
  rw [membersOfText, read] at members
  cases fault
  all_goals
    rw [Document.unforeseen_iff_of_error (Document.policy_of_members_error members)]
    simp [DocumentFault.isReported]

/-- Where the text can be read, only a container among roles is unforeseen, and only as the first
flaw. -/
theorem Document.unforeseen_of_read_ok {v : Value}
    (encoded : content = chars.flatMap String.utf8EncodeChar)
    (read : Value.read (String.ofList (unifyLineEnds chars)) = .ok v) :
    (Document.mk path (.ok content)).Unforeseen ↔
      ∃ members isArray, v = .object members ∧
        (Value.object members).policyFlaws.head? = some (.containerAsRole isArray) := by
  have members : (Document.mk path (.ok content)).members = _ := Document.members_encoded encoded
  rw [membersOfText, read] at members
  cases v with
  | object ms =>
    rcases Document.policy_of_members members with ⟨sound, policy, made⟩ | ⟨flaw, first, failed⟩
    · simp [Document.Unforeseen, made, sound]
    · rw [Document.unforeseen_iff_of_error failed, DocumentFault.badPolicy_unreported_iff]
      simp [first]
  | _ =>
    rw [Document.unforeseen_iff_of_error (Document.policy_of_members_error members)]
    simp [DocumentFault.isReported]

/-- The documents whose faults are not reported, by what their characters are read as. All other
faults of reading and of policies are reported. -/
theorem Document.unforeseen_iff_readings (encoded : content = chars.flatMap String.utf8EncodeChar) :
    (Document.mk path (.ok content)).Unforeseen ↔ UnforeseenReading (unifyLineEnds chars) := by
  rw [UnforeseenReading]
  cases read : Value.read (String.ofList (unifyLineEnds chars)) with
  | error stopped =>
    obtain ⟨fault, offset⟩ := stopped
    rw [Document.unforeseen_of_read_error encoded read]
    simp
  | ok v =>
    rw [Document.unforeseen_of_read_ok encoded read]
    simp

/-- Bytes that are those of no text are always unforeseen, as decoding happens while the file is
read. -/
theorem Document.unforeseen_of_undecodable (path : String)
    (undecodable : ∀ chars : List Char, content ≠ chars.flatMap String.utf8EncodeChar) :
    (Document.mk path (.ok content)).Unforeseen := by
  obtain ⟨fault, failed⟩ := Document.members_undecodable path undecodable
  exact ⟨_, Document.policy_of_members_error failed, rfl⟩

theorem UnforeseenContent.unforeseen (unforeseen : UnforeseenContent content) (path : String) :
    (Document.mk path (.ok content)).Unforeseen := by
  by_cases decodable : ∃ chars : List Char, content = chars.flatMap String.utf8EncodeChar
  · obtain ⟨chars, encoded⟩ := decodable
    exact (Document.unforeseen_iff_readings encoded).mpr (unforeseen.readings encoded)
  · exact Document.unforeseen_of_undecodable path fun chars encoded => decodable ⟨chars, encoded⟩

end Documents

section Output

end Output

section Command

variable {files : Files} {path : String} {content : Bytes}

theorem checkRulesForm_read_path (plain : looksLikeOption path = false) :
    checkRulesForm.read none [path] = .ok { others := [path] } := by
  have notDashes : path ≠ "--" := by
    rintro rfl
    exact absurd plain (by decide)
  simp only [CommandForm.read, if_neg notDashes, plain, Bool.false_eq_true, if_false]
  rfl

/-- The arguments that ask for the check of a document. A path that looks like an option stands
behind a double dash. -/
inductive AsksForCheck (path : String) : List String → Prop
  | dashed : AsksForCheck path ["check-rules", "--", path]
  | plain (plain : looksLikeOption path = false) : AsksForCheck path ["check-rules", path]

/-- Arguments that ask for a check lead to the check of the document at their path, whatever the
environment is. -/
theorem AsksForCheck.run {args : List String} (asks : AsksForCheck path args)
    (found : files path = .ok content) (env : Table String) :
    runProgram files env args = checkPolicy path content := by
  have checked (arguments : List String)
      (read : checkRulesForm.read none arguments = .ok { others := [path] }) :
      runCheckRules files arguments = checkPolicy path content := by
    rw [runCheckRules, CommandForm.run, read]
    simp only [found]
    rfl
  cases asks with
  | dashed => exact checked ["--", path] rfl
  | plain plain => exact checked [path] (checkRulesForm_read_path plain)

end Command

section Unforeseen

end Unforeseen

end GuardedRecords
