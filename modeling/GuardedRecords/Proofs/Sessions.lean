import GuardedRecords.Proofs.IdentityRuns

namespace GuardedRecords

/-- No two of the items to come are the same. -/
def Supply.NeverRepeats {α : Type} (supply : Supply α) : Prop :=
  ∀ first second, supply.taken ≤ first → supply.taken ≤ second →
    supply.item first = supply.item second → first = second

/-- The token has been answered for the user, and no caller of the token has been logged out
since. -/
def OpenFor (events : List SessionEvent) (token user : Value) : Prop :=
  ∃ earlier later, events = earlier ++ .opened token user :: later ∧ .closed token ∉ later

theorem openFor_concat {events : List SessionEvent} {event : SessionEvent} {token user : Value} :
    OpenFor (events ++ [event]) token user ↔
      event = .opened token user ∨ event ≠ .closed token ∧ OpenFor events token user := by
  constructor
  · rintro ⟨earlier, later, same, unclosed⟩
    rcases List.eq_nil_or_concat later with rfl | ⟨later, last, rfl⟩
    · exact .inl (List.singleton_inj.mp (List.append_inj' same rfl).2)
    · rw [List.concat_eq_append] at same unclosed
      rw [← List.cons_append, ← List.append_assoc] at same
      obtain ⟨rfl, ends⟩ := List.append_inj' same rfl
      obtain rfl := List.singleton_inj.mp ends
      rw [List.mem_append, List.mem_singleton, not_or] at unclosed
      exact .inr ⟨Ne.symm unclosed.2, earlier, later, rfl, unclosed.1⟩
  · rintro (rfl | ⟨other, earlier, later, rfl, unclosed⟩)
    · exact ⟨events, [], rfl, List.not_mem_nil⟩
    · refine ⟨earlier, later ++ [event], by rw [List.append_assoc, List.cons_append], ?_⟩
      rw [List.mem_append, List.mem_singleton, not_or]
      exact ⟨unclosed, Ne.symm other⟩

/-- The stored sessions are the open ones. Each has an id and a token of its own, its user is
stored, and no token that is still to come is among them. -/
structure Identities.Tracks (ids : Identities) (events : List SessionEvent) : Prop where
  names : ids.sessions.names.Nodup
  tokens : ∀ first ∈ ids.sessions, ∀ second ∈ ids.sessions,
    first.2.field tokenField = second.2.field tokenField → first = second
  owners : ∀ entry ∈ ids.sessions, ∃ user ∈ ids.users.names,
    entry.2.field sessionUserField = .text user
  coming : ids.tokens.NeverRepeats
  unused : ∀ place, ids.tokens.taken ≤ place → ∀ entry ∈ ids.sessions,
    entry.2.field tokenField ≠ .text (ids.tokens.item place)
  sessions : ∀ token user, OpenFor events token user ↔
    ∃ entry ∈ ids.sessions, entry.2.field tokenField = token ∧
      entry.2.field sessionUserField = user

theorem Identities.Continues.names {before after : Identities} (more : before.Continues after)
    {user : String} (known : user ∈ before.users.names) : user ∈ after.users.names := by
  cases found : before.users.lookup? user with
  | none => exact absurd known (Table.lookup?_eq_none_iff.mp found)
  | some record => exact Table.mem_names_of_lookup? (more.users found)

theorem Supply.NeverRepeats.of_later {α : Type} {before after : Supply α}
    (distinct : before.NeverRepeats) (same : after.item = before.item)
    (later : before.taken ≤ after.taken) : after.NeverRepeats := by
  intro first second comes comesToo
  rw [same]
  exact distinct first second (Nat.le_trans later comes) (Nat.le_trans later comesToo)

/-- The sessions of other tokens than that of a step stay, and none of those comes to them. -/
theorem SessionChange.mem_sessions_iff {before after : Identities} {events : List SessionEvent}
    {event : Option SessionEvent} (change : SessionChange before after event)
    (tracks : before.Tracks events) {token : Value} (other : ∀ e ∈ event, e.token ≠ token)
    {entry : String × Record} (shown : entry.2.field tokenField = token) :
    entry ∈ after.sessions ↔ entry ∈ before.sessions := by
  cases change with
  | none same => rw [same]
  | opened new opening owner known taken grown =>
    rw [grown, List.mem_append, List.mem_singleton]
    refine or_iff_left ?_
    rintro rfl
    exact other _ rfl (opening.symm.trans shown)
  | closed member left =>
    rw [left, Table.mem_remove]
    refine and_iff_left_of_imp fun kept same => ?_
    cases Table.eq_of_mem tracks.names kept member same
    exact other _ rfl shown

section

variable {before after : Identities} {events : List SessionEvent}

theorem Identities.Tracks.owners_later (tracks : before.Tracks events)
    (more : before.Continues after) : ∀ entry ∈ before.sessions, ∃ user ∈ after.users.names,
      entry.2.field sessionUserField = .text user := by
  intro entry member
  obtain ⟨user, known, owner⟩ := tracks.owners entry member
  exact ⟨user, more.names known, owner⟩

/-- The tokens that are still to come are none of the open ones. Tokens are drawn one after the
other and never put back. -/
theorem Identities.Tracks.unused_later (tracks : before.Tracks events)
    (more : before.Continues after) : ∀ place, after.tokens.taken ≤ place →
      ∀ entry ∈ before.sessions,
        entry.2.field tokenField ≠ .text (after.tokens.item place) := by
  intro place comes
  rw [more.tokens]
  exact tracks.unused place (Nat.le_trans more.taken comes)

theorem Identities.Tracks.unchanged (tracks : before.Tracks events)
    (more : before.Continues after) (same : after.sessions = before.sessions) :
    after.Tracks events :=
  ⟨same ▸ tracks.names, same ▸ tracks.tokens, same ▸ tracks.owners_later more,
    tracks.coming.of_later more.tokens more.taken, same ▸ tracks.unused_later more,
    same ▸ tracks.sessions⟩

/-- A session that is opened is one more open one. Its token is new, so no other session has it and
no earlier event is about it. -/
theorem Identities.Tracks.opened (tracks : before.Tracks events) (more : before.Continues after)
    {id user : String} {session : Record} (new : id ∉ before.sessions.names)
    (opening : session.field tokenField = .text before.tokens.next.1)
    (owner : session.field sessionUserField = .text user) (known : user ∈ after.users.names)
    (taken : before.tokens.taken < after.tokens.taken)
    (grown : after.sessions = before.sessions ++ [(id, session)]) :
    after.Tracks (events ++ [.opened (.text before.tokens.next.1) (.text user)]) := by
  -- The token that comes next is among those to come, which no stored session has.
  have fresh : ∀ entry ∈ before.sessions,
      entry.2.field tokenField ≠ session.field tokenField := by
    rw [opening]
    exact tracks.unused _ (Nat.le_refl _)
  have member {entry : String × Record} :
      entry ∈ after.sessions ↔ entry ∈ before.sessions ∨ entry = (id, session) := by
    rw [grown, List.mem_append, List.mem_singleton]
  refine ⟨?names, ?tokens, ?owners, tracks.coming.of_later more.tokens more.taken, ?unused,
    ?sessions⟩
  case names =>
    rw [grown, ← Table.put_of_not_mem new]
    exact Table.nodup_names_put tracks.names id session
  case tokens =>
    intro first one second another same
    rcases member.mp one with old | rfl <;> rcases member.mp another with earlier | rfl
    · exact tracks.tokens first old second earlier same
    · exact absurd same (fresh first old)
    · exact absurd same.symm (fresh second earlier)
    · rfl
  case owners =>
    intro entry stored
    rcases member.mp stored with old | rfl
    · exact tracks.owners_later more entry old
    · exact ⟨user, known, owner⟩
  case unused =>
    intro place comes entry stored
    rcases member.mp stored with old | rfl
    · exact tracks.unused_later more place comes entry old
    · rw [opening, more.tokens]
      -- The token of the new session is drawn already, and none is drawn twice.
      intro same
      have later := Nat.lt_of_lt_of_le taken comes
      have here := tracks.coming _ _ (Nat.le_refl _) (Nat.le_of_lt later) (Value.text.inj same)
      exact Nat.ne_of_lt later here
  case sessions =>
    intro token holder
    rw [openFor_concat]
    constructor
    · rintro (same | ⟨_, early⟩)
      · cases same
        exact ⟨_, member.mpr (.inr rfl), opening, owner⟩
      · obtain ⟨entry, old, shown⟩ := (tracks.sessions token holder).mp early
        exact ⟨entry, member.mpr (.inl old), shown⟩
    · rintro ⟨entry, stored, shown, owned⟩
      rcases member.mp stored with old | rfl
      · exact .inr ⟨SessionEvent.noConfusion,
          (tracks.sessions token holder).mpr ⟨entry, old, shown, owned⟩⟩
      · cases opening.symm.trans shown
        cases owner.symm.trans owned
        exact .inl rfl

/-- A session that is closed is not open any more, and the others are, since no two of them share a
token. -/
theorem Identities.Tracks.closed (tracks : before.Tracks events) (more : before.Continues after)
    {id : String} {session : Record} (stored : (id, session) ∈ before.sessions)
    (left : after.sessions = before.sessions.remove id) :
    after.Tracks (events ++ [.closed (session.field tokenField)]) := by
  have member {entry : String × Record} :
      entry ∈ after.sessions ↔ entry ∈ before.sessions ∧ entry.1 ≠ id := by
    rw [left, Table.mem_remove]
  refine ⟨left ▸ Table.nodup_names_remove tracks.names id, ?tokens, ?owners,
    tracks.coming.of_later more.tokens more.taken, ?unused, ?sessions⟩
  case tokens =>
    intro first one second another
    exact tracks.tokens first (member.mp one).1 second (member.mp another).1
  case owners => exact fun entry kept => tracks.owners_later more entry (member.mp kept).1
  case unused =>
    exact fun place comes entry kept =>
      tracks.unused_later more place comes entry (member.mp kept).1
  case sessions =>
    intro other holder
    rw [openFor_concat]
    constructor
    · rintro (same | ⟨unclosed, early⟩)
      · cases same
      · obtain ⟨entry, old, shown, owned⟩ := (tracks.sessions other holder).mp early
        refine ⟨entry, member.mpr ⟨old, fun same => unclosed ?_⟩, shown, owned⟩
        cases Table.eq_of_mem tracks.names old stored same
        rw [shown]
    · rintro ⟨entry, kept, shown, owned⟩
      obtain ⟨old, different⟩ := member.mp kept
      refine .inr ⟨fun same => different ?_,
        (tracks.sessions other holder).mpr ⟨entry, old, shown, owned⟩⟩
      rw [tracks.tokens entry old _ stored (shown.trans (SessionEvent.closed.inj same).symm)]

/-- One step keeps the stored sessions those of the events: nothing changes, or one is opened, or
one is closed. -/
theorem SessionChange.tracks {event : Option SessionEvent}
    (change : SessionChange before after event) (more : before.Continues after)
    (tracks : before.Tracks events) : after.Tracks (events ++ event.toList) := by
  cases change with
  | none same =>
    rw [Option.toList_none, List.append_nil]
    exact tracks.unchanged more same
  | opened new opening owner known taken grown =>
    exact tracks.opened more new opening owner known taken grown
  | closed stored left => exact tracks.closed more stored left

end

/-- Any number of steps keeps the stored sessions those of all events so far, by induction on the
steps. -/
theorem Identities.tracks_run {ids : Identities} {events : List SessionEvent}
    (tracks : ids.Tracks events) (steps : List IdentityStep) :
    (ids.run steps).2.Tracks (events ++ (ids.run steps).1) := by
  induction steps generalizing ids events with
  | nil => rwa [Identities.run, List.append_nil]
  | cons step rest ih =>
    obtain ⟨more, change⟩ := ids.perform_change step
    have later := ih (change.tracks more tracks)
    rwa [List.append_assoc] at later

/-- The only session of a token is the caller's, and its user is the caller. The user is stored,
because no request ever removes one. -/
theorem Identities.Tracks.caller_of_session {ids : Identities} {events : List SessionEvent}
    (tracks : ids.Tracks events) {entry : String × Record} (member : entry ∈ ids.sessions)
    {token : String} (shown : entry.2.field tokenField = .text token) (isAdmin : Bool) :
    ∃ user record, entry.2.field sessionUserField = .text user ∧
      ids.users.lookup? user = some record ∧
      ids.caller (some token) isAdmin =
        .ok ⟨some (record.tagged user).withoutCredential, some (entry.2.tagged entry.1),
          isAdmin⟩ := by
  have found : ids.sessionWith token = some entry := by
    cases search : ids.sessionWith token with
    | none =>
      have missed := List.find?_eq_none.mp search entry member
      exact absurd (Value.equals_text_iff.mpr shown) missed
    | some other =>
      obtain ⟨stored, same⟩ := Identities.mem_sessions_of_sessionWith search
      rw [tracks.tokens other stored entry member (same.trans shown.symm)]
  obtain ⟨user, known, owner⟩ := tracks.owners entry member
  cases stored : ids.users.lookup? user with
  | none => exact absurd known (Table.lookup?_eq_none_iff.mp stored)
  | some record =>
    have fetched : ids.store.fetch usersCollection (.text user) = some (record.tagged user) := by
      rw [Store.fetch_text, ← Identities.users, stored, Option.map_some]
    refine ⟨user, record, owner, stored, ?_⟩
    simp only [Identities.caller_some, found, owner, fetched]

theorem Identities.caller_of_no_session {ids : Identities} {token : String}
    (absent : ∀ entry ∈ ids.sessions, entry.2.field tokenField ≠ .text token) (isAdmin : Bool) :
    ids.caller (some token) isAdmin = .error (.refused .invalidToken) := by
  have missed : ids.sessionWith token = none := by
    refine List.find?_eq_none.mpr fun entry member equal => ?_
    exact absent entry member (Value.equals_text_iff.mp equal)
  simp only [Identities.caller_some, missed]

/-- Whoever is found for a token has a session of exactly that token, in the same letters, although
tokens are sought without regard to case. -/
theorem Identities.Tracks.session_of_caller {ids : Identities} {events : List SessionEvent}
    (tracks : ids.Tracks events) {token : String} {isAdmin : Bool} {caller : Caller}
    (run : ids.caller (some token) isAdmin = .ok caller) :
    ∃ entry ∈ ids.sessions, ∃ user record, entry.2.field tokenField = .text token ∧
      entry.2.field sessionUserField = .text user ∧ ids.users.lookup? user = some record ∧
      caller = ⟨some (record.tagged user).withoutCredential, some (entry.2.tagged entry.1),
        isAdmin⟩ := by
  by_cases present : ∃ entry ∈ ids.sessions, entry.2.field tokenField = .text token
  · obtain ⟨entry, member, shown⟩ := present
    obtain ⟨user, record, owner, stored, found⟩ := tracks.caller_of_session member shown isAdmin
    exact ⟨entry, member, user, record, shown, owner, stored,
      Except.ok.inj (run.symm.trans found)⟩
  · have refused := Identities.caller_of_no_session
      (fun entry member shown => present ⟨entry, member, shown⟩) isAdmin
    cases run.symm.trans refused

theorem Caller.userId_of_tagged (record : Record) (id : String) (session : Option Record)
    (isAdmin : Bool) :
    Caller.userId ⟨some (record.tagged id).withoutCredential, session, isAdmin⟩ = .text id := by
  have kept : (record.tagged id).withoutCredential.field idField = .text id := by
    rw [Record.field, Record.withoutCredential, Table.lookup?_remove_of_ne (by decide),
      Record.tagged, Table.lookup?_put_self, Option.getD_some]
  exact kept

/-- A token that has been answered for a user, and has not been logged out since, shows that user;
any other one is refused. What happens to a session is of no concern to the other tokens. -/
structure Identities.HonoursSessions (ids : Identities) (events : List SessionEvent) : Prop where
  accepted : ∀ {token : String} {user : Value} (isAdmin : Bool),
    OpenFor events (.text token) user ↔
      ∃ caller, ids.caller (some token) isAdmin = .ok caller ∧ caller.userId = user
  refused : ∀ {token : String} (isAdmin : Bool), (∀ user, ¬OpenFor events (.text token) user) →
    ids.caller (some token) isAdmin = .error (.refused .invalidToken)
  identified : ∀ {token : String} {isAdmin : Bool} {caller : Caller},
    ids.caller (some token) isAdmin = .ok caller →
      ∃ user record, OpenFor events (.text token) (.text user) ∧
        ids.store.get usersCollection user = .ok record ∧
        caller.user = some record.withoutCredential ∧ caller.isAdmin = isAdmin
  unaffected : ∀ (step : IdentityStep) {token : String} (isAdmin : Bool),
    (∀ event ∈ step.event? (ids.perform step).1, event.token ≠ .text token) →
    (ids.perform step).2.caller (some token) isAdmin = ids.caller (some token) isAdmin

/-- If the stored sessions are those of the events, then each open token shows its user and every
other one is refused. -/
theorem Identities.Tracks.honoursSessions {ids : Identities} {events : List SessionEvent}
    (tracks : ids.Tracks events) : ids.HonoursSessions events where
  accepted {token user} isAdmin := by
    constructor
    · intro admitted
      obtain ⟨entry, member, shown, owned⟩ := (tracks.sessions (.text token) user).mp admitted
      obtain ⟨holder, record, owner, _, run⟩ := tracks.caller_of_session member shown isAdmin
      cases owned.symm.trans owner
      exact ⟨_, run, Caller.userId_of_tagged ..⟩
    · rintro ⟨caller, run, same⟩
      obtain ⟨entry, member, holder, record, shown, owner, _, rfl⟩ := tracks.session_of_caller run
      rw [Caller.userId_of_tagged] at same
      exact (tracks.sessions (.text token) user).mpr ⟨entry, member, shown, owner.trans same⟩
  refused {token} isAdmin closed := by
    refine Identities.caller_of_no_session (fun entry member shown => ?_) isAdmin
    obtain ⟨user, _, owner⟩ := tracks.owners entry member
    exact closed _ ((tracks.sessions _ _).mpr ⟨entry, member, shown, owner⟩)
  identified {token isAdmin caller} run := by
    obtain ⟨entry, member, user, record, shown, owner, stored, rfl⟩ := tracks.session_of_caller run
    exact ⟨user, record.tagged user,
      (tracks.sessions _ _).mpr ⟨entry, member, shown, owner⟩,
      Store.get_eq_ok_iff_recordsUnder.mpr ⟨record, stored, rfl⟩, rfl, rfl⟩
  unaffected step token isAdmin other := by
    obtain ⟨more, change⟩ := ids.perform_change step
    have later := change.tracks more tracks
    -- The session of another token is there afterwards exactly if it was there before.
    by_cases present : ∃ entry ∈ ids.sessions, entry.2.field tokenField = .text token
    · obtain ⟨entry, member, shown⟩ := present
      have kept := (change.mem_sessions_iff tracks other shown).mpr member
      obtain ⟨user, record, owner, stored, run⟩ := tracks.caller_of_session member shown isAdmin
      obtain ⟨holder, found, same, there, rerun⟩ := later.caller_of_session kept shown isAdmin
      cases owner.symm.trans same
      cases there.symm.trans (more.users stored)
      rw [run, rerun]
    · rw [Identities.caller_of_no_session fun entry member shown =>
          present ⟨entry, member, shown⟩,
        Identities.caller_of_no_session fun entry member shown =>
          present ⟨entry, (change.mem_sessions_iff tracks other shown).mp member, shown⟩]

theorem Identities.tracks_of_no_sessions {ids : Identities} (unopened : ids.sessions = [])
    (distinct : ids.tokens.NeverRepeats) : ids.Tracks [] := by
  have absent (entry : String × Record) : entry ∉ ids.sessions := by
    rw [unopened]
    exact List.not_mem_nil
  refine ⟨?names, ?tokens, ?owners, distinct, ?unused, ?sessions⟩
  case names =>
    rw [unopened]
    exact List.nodup_nil
  case tokens => exact fun entry member => absurd member (absent entry)
  case owners => exact fun entry member => absurd member (absent entry)
  case unused => exact fun _ _ entry member => absurd member (absent entry)
  case sessions =>
    intro token user
    constructor
    · rintro ⟨earlier, later, same, _⟩
      cases earlier <;> cases same
    · rintro ⟨entry, member, _⟩
      exact absurd member (absent entry)

/-- From a store without sessions on, and with tokens that are all different, exactly the tokens
answered and not logged out are accepted, whatever the steps are and whichever of them fail. -/
theorem Identities.run_honours_sessions {ids : Identities} (unopened : ids.sessions = [])
    (distinct : ids.tokens.NeverRepeats) (steps : List IdentityStep) :
    (ids.run steps).2.HonoursSessions (ids.run steps).1 :=
  (Identities.tracks_run (Identities.tracks_of_no_sessions unopened distinct) steps).honoursSessions

/-- An empty store, with tokens of which the first two differ in case only. -/
def caselessTokens : Identities where
  store := .holding [] (fun place => if place < 2 then "a1" else "b1") 0
  nameField := "email"
  tokens := { item := fun place =>
    if place = 1 then "T" else String.ofList (List.replicate (place + 1) 't') }
  hasher := Hasher.transparent 0

theorem caselessTokens_neverRepeats : caselessTokens.tokens.NeverRepeats := by
  have upper (place : Nat) : "T" ≠ String.ofList (List.replicate (place + 1) 't') := by
    intro same
    have lists := congrArg String.toList same
    simp only [String.toList_ofList, List.replicate_succ] at lists
    cases lists
  intro first second _ _ same
  simp only [caselessTokens] at same
  split at same <;> split at same
  · omega
  · exact absurd same (upper second)
  · exact absurd same.symm (upper first)
  · have lengths := congrArg (fun token => token.toList.length) same
    simpa using lengths

/-- Two users come, a stranger fails to log in, and the first user goes. -/
def comingAndGoing : List IdentityStep :=
  [.register (.object [("email", .text "ann"), ("password", .text "p")]),
    .register (.object [("email", .text "bob"), ("password", .text "q")]),
    .login (.object [("email", .text "eve"), ("password", .text "p")]),
    .logout (some "t") false]

theorem Identities.run_honours_sessions_caseless :
    caselessTokens.sessions = [] ∧ caselessTokens.tokens.NeverRepeats ∧
      (caselessTokens.run comingAndGoing).2.HonoursSessions
        (caselessTokens.run comingAndGoing).1 ∧
      OpenFor (caselessTokens.run comingAndGoing).1 (.text "T") (.text "b1") ∧
      ∀ user, ¬OpenFor (caselessTokens.run comingAndGoing).1 (.text "t") user := by
  have unopened : caselessTokens.sessions = [] := rfl
  have events : (caselessTokens.run comingAndGoing).1 =
      [.opened (.text "t") (.text "a1"), .opened (.text "T") (.text "b1"), .closed (.text "t")] :=
    rfl
  refine ⟨unopened, caselessTokens_neverRepeats,
    Identities.run_honours_sessions unopened caselessTokens_neverRepeats comingAndGoing, ?_, ?_⟩
  · rw [events]
    exact ⟨[.opened (.text "t") (.text "a1")], [.closed (.text "t")], rfl, by simp⟩
  · intro user still
    have ends : (caselessTokens.run comingAndGoing).1 =
        [.opened (.text "t") (.text "a1"), .opened (.text "T") (.text "b1")] ++
          [.closed (.text "t")] := events
    rw [ends, openFor_concat] at still
    rcases still with same | ⟨unclosed, _⟩
    · cases same
    · exact unclosed rfl

end GuardedRecords
