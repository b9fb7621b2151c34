namespace GuardedRecords

/-- What follows the control sequence at the start of a text, if there is one: an escape and a
bracket, parameters from `0` to `?`, blanks and signs up to `/`, and one final character. -/
def afterSequence? : List Char → Option (List Char)
  | '\x1b' :: '[' :: rest =>
    let final := (rest.dropWhile fun c => '0' ≤ c && c ≤ '?').dropWhile fun c => ' ' ≤ c && c ≤ '/'
    match final with
    | c :: more => if '@' ≤ c && c ≤ '~' then some more else none
    | [] => none
  | _ => none

theorem length_lt_of_afterSequence {cs rest : List Char} (found : afterSequence? cs = some rest) :
    rest.length < cs.length := by
  unfold afterSequence? at found
  split at found
  · next body =>
    have outer := (List.dropWhile_suffix (fun c => decide (' ' ≤ c) && decide (c ≤ '/'))
      (l := body.dropWhile fun c => decide ('0' ≤ c) && decide (c ≤ '?'))).length_le
    have inner := (List.dropWhile_suffix (fun c => decide ('0' ≤ c) && decide (c ≤ '?'))
      (l := body)).length_le
    simp only at found
    split at found
    · next c more split_eq =>
      rw [split_eq] at outer
      split at found
      · cases found
        simp only [List.length_cons] at outer ⊢
        omega
      · cases found
    · cases found
  · cases found

/-- A text without the control sequences that would colour it on a terminal. -/
def withoutSequences (cs : List Char) : List Char :=
  match _found : afterSequence? cs with
  | some rest => withoutSequences rest
  | none =>
    match cs with
    | [] => []
    | c :: rest => c :: withoutSequences rest
termination_by cs.length
decreasing_by
  · exact length_lt_of_afterSequence _found
  · simp

end GuardedRecords
