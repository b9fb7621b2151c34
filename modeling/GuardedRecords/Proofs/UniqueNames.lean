import GuardedRecords.Proofs.FailedRequests
import GuardedRecords.Proofs.RegisteredUsers

namespace GuardedRecords

/-- No two users have texts in a field that agree up to case. Users without a text there are free
to agree. -/
def NamesApart (field : String) (users : Table Record) : Prop :=
  users.Pairwise fun first second => ∀ name spelled,
    first.2.field field = .text name → second.2.field field = .text spelled →
      lower name ≠ lower spelled

/-- A name is known when a user is stored with it, in whatever case it is spelled there. -/
theorem Identities.usersNamed_ne_nil_iff {ids : Identities} {name : String} :
    ids.usersNamed name ≠ [] ↔ ∃ entry ∈ ids.users, ∃ spelled,
      entry.2.field ids.nameField = .text spelled ∧ lower spelled = lower name := by
  rw [ne_eq, Identities.usersNamed_eq_nil_iff, Identities.entriesNamed, List.filter_eq_nil_iff]
  simp only [fieldMatches_text_iff, Classical.not_forall, Classical.not_not, exists_prop]

/-- A body whose two fields are filled, and whose name some user has, is the only one that is
refused for its name. -/
theorem Identities.register_taken_iff_stored {ids : Identities} {body : Value} {field : String} :
    (ids.register body).1 = .error (.refused (.identityTaken field)) ↔
      field = ids.nameField ∧ ∃ (members : Record) (name password : String),
        body = .object members ∧ members.field ids.nameField = .text name ∧ name ≠ "" ∧
        members.field passwordField = .text password ∧ password ≠ "" ∧
        ∃ entry ∈ ids.users, ∃ spelled, entry.2.field ids.nameField = .text spelled ∧
          lower spelled = lower name := by
  simp only [Identities.register_taken_iff, Identities.registration?_eq_some_iff,
    filledText?_eq_some_iff, Identities.usersNamed_ne_nil_iff, and_assoc]

theorem NamesApart.concat {field : String} {users : Table Record} (apart : NamesApart field users)
    {id name : String} {user : Record} (stored : user.field field = .text name)
    (free : ∀ entry ∈ users, ∀ spelled, entry.2.field field = .text spelled →
      lower spelled ≠ lower name) : NamesApart field (users ++ [(id, user)]) := by
  refine List.pairwise_append.mpr ⟨apart, List.pairwise_singleton _ _, ?_⟩
  intro entry member last same earlier later shown given
  cases List.mem_singleton.mp same
  cases stored.symm.trans given
  exact free entry member earlier shown

/-- A new user has the name that was looked up before, so no one who was there has it. All other
requests leave the names as they are. -/
theorem IdentityEffect.namesApart {ids after : Identities} {request : IdentityRequest}
    {reply : Except Failure IdentityReply} (effect : IdentityEffect ids request reply after)
    (ordinary : ids.nameField ∉ passwordField :: credentialField :: systemFields)
    (apart : NamesApart ids.nameField ids.users) : NamesApart ids.nameField after.users := by
  obtain ⟨-, -, same | ⟨body, id, user, enrols, grown⟩⟩ := effect.users_cases
  · rwa [same]
  · obtain ⟨members, name, password, -, -, -, free, stored, -⟩ := enrols.stored ordinary
    have unknown : ids.usersNamed name = [] := Identities.usersNamed_eq_nil_iff.mpr free
    rw [grown]
    refine apart.concat stored fun entry member spelled shown agree => ?_
    exact Identities.usersNamed_ne_nil_iff.mpr ⟨entry, member, spelled, shown, agree⟩ unknown

/-- As long as the names of users stand in a field of their own, they stay apart whatever is asked,
and a registration is refused for its name exactly when its name and password are filled and some
user has that name already. -/
theorem Identities.serve_keeps_names_apart {ids : Identities}
    (ordinary : ids.nameField ∉ passwordField :: credentialField :: systemFields)
    (apart : NamesApart ids.nameField ids.users) (requests : List IdentityRequest) :
    NamesApart ids.nameField (ids.serve requests).2.users ∧
      ∀ (body : Value) (field : String),
        ((ids.serve requests).2.register body).1 = .error (.refused (.identityTaken field)) ↔
          field = ids.nameField ∧ ∃ (members : Record) (name password : String),
            body = .object members ∧ members.field ids.nameField = .text name ∧ name ≠ "" ∧
            members.field passwordField = .text password ∧ password ≠ "" ∧
            ∃ entry ∈ (ids.serve requests).2.users, ∃ spelled,
              entry.2.field ids.nameField = .text spelled ∧ lower spelled = lower name := by
  have step (before : Identities) (request : IdentityRequest)
      (held : before.nameField = ids.nameField ∧ NamesApart ids.nameField before.users) :
      (before.answer request).2.nameField = ids.nameField ∧
        NamesApart ids.nameField (before.answer request).2.users := by
    obtain ⟨same, apart⟩ := held
    have effect := before.answer_effect request
    rw [← same] at ordinary apart ⊢
    exact ⟨effect.users_cases.1, effect.namesApart ordinary apart⟩
  have kept : (ids.serve requests).2.nameField = ids.nameField ∧
      NamesApart ids.nameField (ids.serve requests).2.users :=
    Identities.serve_keeps step ⟨rfl, apart⟩ requests
  obtain ⟨same, apart⟩ := kept
  refine ⟨apart, fun body field => ?_⟩
  rw [Identities.register_taken_iff_stored, same]

/-- Two users share a number in the place of a name. Someone fails to take the name of Ann, and Bob
comes. After that the name of Ann is still taken, and so is that of Bob. -/
theorem Identities.serve_keeps_names_apart_numbered :
    let ids : Identities :=
      { store := .holding [("users", [("u1", [("email", .text "Ann")]), ("u2", [("email", .int 7)]),
          ("u3", [("email", .int 7)])])] (fun _ => "u4") 0
        nameField := "email", tokens := ⟨fun _ => "t", 0⟩, hasher := .transparent 0 }
    let body (name : String) : Value := .object [("email", .text name), ("password", .text "p")]
    let after := (ids.serve [.register (body "ANN"), .register (body "bob")]).2
    ids.nameField ∉ passwordField :: credentialField :: systemFields ∧
      NamesApart ids.nameField ids.users ∧ after.users.names = ["u1", "u2", "u3", "u4"] ∧
      NamesApart ids.nameField after.users ∧
      (after.register (body "aNN")).1 = .error (.refused (.identityTaken "email")) ∧
      (after.register (body "BOB")).1 = .error (.refused (.identityTaken "email")) := by
  intro ids body after
  have ordinary : ids.nameField ∉ passwordField :: credentialField :: systemFields := by decide
  have apart : NamesApart ids.nameField ids.users := by
    refine .cons ?_ (.cons ?_ (List.pairwise_singleton _ _))
    · intro other member name spelled _ later
      simp only [List.mem_cons, List.not_mem_nil, or_false] at member
      rcases member with rfl | rfl <;> cases later
    · intro other _ name spelled earlier
      cases earlier
  have names : after.users.names = ["u1", "u2", "u3", "u4"] := rfl
  obtain ⟨later, taken_iff⟩ := Identities.serve_keeps_names_apart ordinary apart
    [.register (body "ANN"), .register (body "bob")]
  have ann : ("u1", [("email", .text "Ann")]) ∈ after.users := List.mem_cons_self
  have bob : ("u4", (after.users.lookup? "u4").getD []) ∈ after.users := Table.mem_of_lookup? rfl
  exact ⟨ordinary, apart, names, later,
    (taken_iff (body "aNN") "email").mpr ⟨rfl, _, "aNN", "p", rfl, rfl, by decide, rfl, by decide,
      _, ann, "Ann", rfl, rfl⟩,
    (taken_iff (body "BOB") "email").mpr ⟨rfl, _, "BOB", "p", rfl, rfl, by decide, rfl, by decide,
      _, bob, "bob", rfl, rfl⟩⟩

end GuardedRecords
