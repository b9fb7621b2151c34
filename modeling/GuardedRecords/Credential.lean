import GuardedRecords.ServiceError

namespace GuardedRecords

/-- What every password hash begins with. -/
def hashMark : String := "$argon2"

/-- Whether a text is a password hash already. -/
def isHash (s : String) : Bool := hashMark.toList.isPrefixOf s.toList

def isAsciiText (s : String) : Bool := s.toList.all fun c => c.toNat < 128

/-- A way to store passwords. A hash verifies the password it was made of and no other. -/
structure Hasher where
  hash : String → String
  verifies : (stored password : String) → Bool
  isHash_hash (password : String) : isHash (hash password) = true
  isAsciiText_hash (password : String) : isAsciiText (hash password) = true
  verifies_hash (password guess : String) : verifies (hash password) guess = (password == guess)

/-- Whether a stored credential verifies a password. One that counts as false verifies none. -/
def Hasher.check (hasher : Hasher) (stored : Value) (password : String) : Except Failure Bool :=
  if !stored.truthy then .ok false
  else
    match stored with
    | .text s =>
      if isAsciiText s then .ok (hasher.verifies s password) else .error (.credentialNotAscii s)
    | other => .error (.credentialNotText other)

/-- The code point of a character in twenty-one binary digits, the lowest one first. -/
def binaryDigits (c : Char) : List Char :=
  (List.range 21).map fun i => if c.toNat.testBit i then '1' else '0'

theorem binaryDigits_injective {c d : Char} (same : binaryDigits c = binaryDigits d) : c = d := by
  have bound (c : Char) : c.toNat < 2 ^ 21 := by
    have := c.valid
    simp only [UInt32.isValidChar, Nat.isValidChar] at this
    have : c.toNat = c.val.toNat := rfl
    omega
  have codes : c.toNat = d.toNat := by
    apply Nat.eq_of_testBit_eq
    intro i
    by_cases small : i < 21
    · have at_i : (binaryDigits c)[i]? = (binaryDigits d)[i]? := by rw [same]
      simp only [binaryDigits, List.getElem?_map, List.getElem?_range small, Option.map_some,
        Option.some.injEq] at at_i
      cases hc : c.toNat.testBit i <;> cases hd : d.toNat.testBit i <;> simp_all
    · have wide : 2 ^ 21 ≤ 2 ^ i := Nat.pow_le_pow_right (by omega) (by omega)
      rw [Nat.testBit_lt_two_pow (Nat.lt_of_lt_of_le (bound c) wide),
        Nat.testBit_lt_two_pow (Nat.lt_of_lt_of_le (bound d) wide)]
  exact Char.ext (UInt32.toNat_inj.mp codes)

theorem flatMap_binaryDigits_injective {s t : List Char}
    (same : s.flatMap binaryDigits = t.flatMap binaryDigits) : s = t := by
  have width (c : Char) : (binaryDigits c).length = 21 := by simp [binaryDigits]
  induction s generalizing t with
  | nil =>
    cases t with
    | nil => rfl
    | cons d t =>
      have := congrArg List.length same
      simp only [List.flatMap_nil, List.flatMap_cons, List.length_append, List.length_nil,
        width] at this
      omega
  | cons c s ih =>
    cases t with
    | nil =>
      have := congrArg List.length same
      simp only [List.flatMap_nil, List.flatMap_cons, List.length_append, List.length_nil,
        width] at this
      omega
    | cons d t =>
      simp only [List.flatMap_cons] at same
      obtain ⟨head, tail⟩ := List.append_inj same (by rw [width, width])
      rw [binaryDigits_injective head, ih tail]

/-- The usual beginning of a hash: the costs of its making. -/
def openHeader : String := "$argon2id$v=19$m=65536,t=3,p=4$"

/-- The characters that stand before the password: the usual header and a salt of so many zeros. -/
def openStart (salt : Nat) : List Char := openHeader.toList ++ (List.replicate salt '0' ++ ['$'])

/-- The text that stores a password openly, in binary digits behind header and salt. It is longer
than its salt, so a text that is not longer is never such a hash. -/
def openHash (salt : Nat) (password : String) : String :=
  String.ofList (openStart salt ++ password.toList.flatMap binaryDigits)

theorem openHash_toList (salt : Nat) (password : String) :
    (openHash salt password).toList = openStart salt ++ password.toList.flatMap binaryDigits := by
  rw [openHash, String.toList_ofList]

theorem openHash_injective {salt : Nat} {s t : String} (same : openHash salt s = openHash salt t) :
    s = t := by
  have lists := congrArg String.toList same
  rw [openHash_toList, openHash_toList] at lists
  exact String.toList_inj.mp (flatMap_binaryDigits_injective (List.append_cancel_left lists))

theorem isHash_openHash (salt : Nat) (password : String) :
    isHash (openHash salt password) = true := by
  have header : hashMark.toList <+: openHeader.toList := by
    rw [← List.isPrefixOf_iff_prefix]; decide +kernel
  rw [isHash, openHash_toList, List.isPrefixOf_iff_prefix, openStart, List.append_assoc]
  exact header.trans (List.prefix_append _ _)

theorem isAsciiText_openHash (salt : Nat) (password : String) :
    isAsciiText (openHash salt password) = true := by
  have header : (openHeader.toList.all fun c => c.toNat < 128) = true := by decide +kernel
  have start : ((openStart salt).all fun c => c.toNat < 128) = true := by
    rw [openStart, List.all_append, header, Bool.true_and, List.all_append, List.all_replicate]
    cases salt <;> rfl
  rw [isAsciiText, openHash_toList, List.all_append, start, Bool.true_and, List.all_eq_true]
  intro digit mem
  obtain ⟨c, _, inDigits⟩ := List.mem_flatMap.mp mem
  obtain ⟨i, _, rfl⟩ := List.mem_map.mp inDigits
  split <;> decide

theorem openHash_eq_openHash (salt : Nat) (s t : String) :
    (openHash salt s == openHash salt t) = (s == t) := by
  by_cases same : s = t
  · rw [same, beq_self_eq_true, beq_self_eq_true]
  · have hashes : openHash salt s ≠ openHash salt t := fun h => same (openHash_injective h)
    rw [beq_eq_false_iff_ne.mpr same, beq_eq_false_iff_ne.mpr hashes]

/-- The hasher that keeps no secret; it stands in where passwords need no protection. The salt
keeps its hashes apart from texts that are given. -/
def Hasher.transparent (salt : Nat) : Hasher where
  hash := openHash salt
  verifies stored password := stored == openHash salt password
  isHash_hash := isHash_openHash salt
  isAsciiText_hash := isAsciiText_openHash salt
  verifies_hash := openHash_eq_openHash salt

end GuardedRecords
