import Keyspaces.Proofs.Context

/-
  Handles and their sessions. A session that a handle opened
  is the current one of this handle for as long as it is open,
  and the statements that a handle keeps are those that were
  prepared on its current session.

  Main declarations:
    * `Application.Attached`
    * `Handle.attached_connect`
    * `Handle.attached_execute`
    * `Handle.attached_prepare`
    * `Handle.attached_shutdown`
    * `Handle.answered_prepare`
-/

------------------------------------------------------------
-- Attachment
------------------------------------------------------------

namespace Keyspaces

/-
  The shutdown of a session never fails, and every query gets
  a statement when it is prepared.
-/
structure Faults.SessionsReturn (faults : Faults) : Prop where
  shutdown :
    ∀ session, Call.shutdownSession session ∉ faults.failing
  prepared : ∀ query, query ∉ faults.unprepared

/-
  A statement was prepared for its query on its session, after
  as many other queries as it counts.
-/
def Fleet.HasPrepared
    (fleet : Fleet)
    (statement : Statement) : Prop :=
  ∃ earlier later,
    (fleet.sessions.get statement.session).prepared =
        earlier ++ statement.query :: later ∧
      statement.count = earlier.length + 1

namespace Application

/- A session was made between two states. -/
def Makes
    (before after : Application)
    (session : SessionId) : Prop :=
  before.fleet.sessions.size ≤ session ∧
    session < after.fleet.sessions.size

/-
  Handles are attached to their sessions, of which it is known
  which handle opened them. A session is the current one of a
  single handle, and of the handle that opened it as long as
  it is open. What a handle keeps are the statements that were
  prepared on its current session, all of them, and no query
  was prepared twice on a session.
-/
structure Attached
    (opened : HandleId → SessionId → Prop)
    (app : Application) : Prop where
  returns : app.fleet.faults.SessionsReturn
  known :
    ∀ id session,
      (app.handles.get id).session = some session →
        session < app.fleet.sessions.size
  apart :
    ∀ id other session,
      (app.handles.get id).session = some session →
        (app.handles.get other).session = some session →
          id = other
  made :
    ∀ id session, opened id session →
      id < app.handles.size ∧
        session < app.fleet.sessions.size
  own :
    ∀ id session, id < app.handles.size →
      (app.handles.get id).session = some session →
        opened id session
  live :
    ∀ id session, opened id session →
      app.fleet.isOpen session = true →
        (app.handles.get id).session = some session
  cached :
    ∀ id query statement,
      (app.handles.get id).statements.get? query =
          some statement →
        (app.handles.get id).session =
            some statement.session ∧
          statement.query = query ∧
            app.fleet.HasPrepared statement
  complete :
    ∀ id session,
      (app.handles.get id).session = some session →
        ∀ query ∈ (app.fleet.sessions.get session).prepared,
          (app.handles.get id).statements.get? query ≠ none
  once :
    ∀ session,
      (app.fleet.sessions.get session).prepared.Nodup

/- In an application that starts nothing is opened. -/
theorem attached_start
    (conf : Config)
    {faults : Faults}
    (hReturns : faults.SessionsReturn) :
    Attached (fun _ _ => False) (start conf faults) where
  returns := hReturns
  known := by
    intro id session hSession
    contradiction
  apart := by
    intro id other session hSession
    contradiction
  made := by
    intro id session hOpened
    contradiction
  own := by
    intro id session hMade
    contradiction
  live := by
    intro id session hOpened
    contradiction
  cached := by
    intro id query statement hStatement
    contradiction
  complete := by
    intro id session hSession
    contradiction
  once := fun _ => List.nodup_nil

end Application

end Keyspaces

------------------------------------------------------------
-- Idle Changes
------------------------------------------------------------

namespace Keyspaces

namespace Application

/-
  No handle changed, no session was made or came to life, and
  nothing was prepared.
-/
structure Idle (before after : Application) : Prop where
  handles : after.handles = before.handles
  faults : after.fleet.faults = before.fleet.faults
  sessionCount :
    after.fleet.sessions.size = before.fleet.sessions.size
  prepared :
    ∀ session,
      (after.fleet.sessions.get session).prepared =
        (before.fleet.sessions.get session).prepared
  closed :
    ∀ session, after.fleet.isOpen session = true →
      before.fleet.isOpen session = true

namespace Idle

variable {before after : Application}

/- What touches neither handles nor sessions is idle. -/
theorem of_same
    (hHandles : after.handles = before.handles)
    (hFaults : after.fleet.faults = before.fleet.faults)
    (hSessions :
      after.fleet.sessions = before.fleet.sessions) :
    Idle before after where
  handles := hHandles
  faults := hFaults
  sessionCount := by rw [hSessions]
  prepared := by
    intro session
    rw [hSessions]
  closed := by
    intro session hOpen
    unfold Fleet.isOpen at hOpen ⊢
    rwa [hSessions] at hOpen

theorem refl (app : Application) : Idle app app :=
  of_same rfl rfl rfl

theorem trans
    {first second third : Application}
    (hFirst : Idle first second)
    (hSecond : Idle second third) : Idle first third where
  handles := hSecond.handles.trans hFirst.handles
  faults := hSecond.faults.trans hFirst.faults
  sessionCount :=
    hSecond.sessionCount.trans hFirst.sessionCount
  prepared := fun session =>
    (hSecond.prepared session).trans (hFirst.prepared session)
  closed := fun session hOpen =>
    hFirst.closed session (hSecond.closed session hOpen)

instance : IsPreorder Application Idle where
  refl := refl
  trans _ _ _ := trans

/-
  A session may change as long as nothing is prepared on it
  and it does not come to life.
-/
theorem setSession
    (app : Application)
    (session : SessionId)
    {changed : Session}
    (hPrepared :
      changed.prepared =
        (app.fleet.sessions.get session).prepared)
    (hClosed :
      (app.fleet.sessions.get session).isShutdown = true →
        changed.isShutdown = true) :
    Idle app (app.withFleet (·.setSession session changed)) := by
  have hSelf :
      (app.fleet.sessions.set session changed).get session =
        changed :=
    Pool.get_set_self _ _ _
  have hOther : ∀ other, other ≠ session →
      (app.fleet.sessions.set session changed).get other =
        app.fleet.sessions.get other :=
    fun _ => Pool.get_set_of_ne _ _
  constructor
  case handles => rfl
  case faults => rfl
  case sessionCount => rfl
  case prepared =>
    intro other
    unfold withFleet Fleet.setSession
    by_cases hSame : other = session
    · rw [hSame, hSelf]
      exact hPrepared
    · rw [hOther other hSame]
  case closed =>
    intro other hOpen
    unfold withFleet Fleet.setSession Fleet.isOpen at hOpen
    unfold Fleet.isOpen
    rw [Bool.not_eq_true'] at hOpen ⊢
    by_cases hSame : other = session
    · rw [hSame, hSelf] at hOpen
      rw [hSame]
      by_contra hShutdown
      rw [Bool.not_eq_false] at hShutdown
      simp [hClosed hShutdown] at hOpen
    · rwa [hOther other hSame] at hOpen

/- A session may be shut down. -/
theorem closeSession
    (app : Application)
    (session : SessionId) :
    Idle app (app.withFleet (·.closeSession session)) :=
  setSession app session rfl fun _ => rfl

/- A query may be executed on a session. -/
theorem recordExecuted
    (app : Application)
    (session : SessionId)
    (query : String) :
    Idle app
      (app.withFleet (·.recordExecuted session query)) :=
  setSession app session rfl id

end Idle

variable {opened : HandleId → SessionId → Prop}
variable {app : Application}

/- What was prepared stays so while it is idle. -/
theorem Idle.hasPrepared
    {before after : Application}
    (h : Idle before after)
    {statement : Statement}
    (hPrepared : before.fleet.HasPrepared statement) :
    after.fleet.HasPrepared statement := by
  unfold Fleet.HasPrepared
  rw [h.prepared]
  exact hPrepared

/- Handles stay attached while it is idle. -/
theorem Attached.of_idle
    {after : Application}
    (h : Attached opened app)
    (hIdle : Idle app after) : Attached opened after := by
  constructor
  case returns =>
    rw [hIdle.faults]
    exact h.returns
  case known =>
    rw [hIdle.handles, hIdle.sessionCount]
    exact h.known
  case apart =>
    rw [hIdle.handles]
    exact h.apart
  case made =>
    rw [hIdle.handles, hIdle.sessionCount]
    exact h.made
  case own =>
    rw [hIdle.handles]
    exact h.own
  case live =>
    intro id session hOpened hOpen
    rw [hIdle.handles]
    exact h.live id session hOpened (hIdle.closed session hOpen)
  case cached =>
    intro id query statement hStatement
    rw [hIdle.handles] at hStatement ⊢
    rcases h.cached id query statement hStatement with
      ⟨hSession, hQuery, hPrepared⟩
    exact ⟨hSession, hQuery, hIdle.hasPrepared hPrepared⟩
  case complete =>
    intro id session hSession query hQuery
    rw [hIdle.handles] at hSession ⊢
    rw [hIdle.prepared] at hQuery
    exact h.complete id session hSession query hQuery
  case once =>
    intro session
    rw [hIdle.prepared]
    exact h.once session

/- Only which sessions were opened matters. -/
theorem Attached.congr
    {other : HandleId → SessionId → Prop}
    (h : Attached opened app)
    (hSame :
      ∀ id session, opened id session ↔ other id session) :
    Attached other app := by
  have hEqual : opened = other := by
    funext id session
    exact propext (hSame id session)
  rwa [← hEqual]

/- A handle without an open session is not that of one. -/
theorem Attached.ne_of_closed
    (h : Attached opened app)
    {id other : HandleId}
    {session : SessionId}
    (hClosed :
      (app.handles.get id).openSession? app.fleet = none)
    (hOpened : opened other session)
    (hOpen : app.fleet.isOpen session = true) :
    other ≠ id := by
  have hCurrent := h.live other session hOpened hOpen
  rintro rfl
  simp [Handle.openSession?, hCurrent, hOpen] at hClosed

/-
  The sessions that were opened by handles before, and those
  that a handle opened between two states.
-/
def openedAfter
    (opened : HandleId → SessionId → Prop)
    (user : HandleId)
    (before after : Application)
    (id : HandleId)
    (session : SessionId) : Prop :=
  opened id session ∨
    id = user ∧ id < after.handles.size ∧
      Makes before after session

/- Without a new session nothing more is opened. -/
theorem Attached.unopened
    {before after : Application}
    (h : Attached opened app)
    (user : HandleId)
    (hCount :
      after.fleet.sessions.size =
        before.fleet.sessions.size) :
    Attached (openedAfter opened user before after) app := by
  apply h.congr
  intro id session
  refine (or_iff_left ?_).symm
  rintro ⟨_, _, hOld, hNew⟩
  rw [hCount] at hNew
  exact Nat.not_lt.mpr hOld hNew

end Application

end Keyspaces

------------------------------------------------------------
-- Sessions That Are Opened
------------------------------------------------------------

namespace Keyspaces

namespace Application

variable {opened : HandleId → SessionId → Prop}
variable {app : Application}

/- A new handle has no session. -/
theorem Attached.withHandle
    (h : Attached opened app)
    (name : Option String)
    (cluster : ClusterId) :
    Attached opened (app.withHandle name cluster) := by
  have hNew :
      (app.withHandle name cluster).handles.get
          app.handles.size =
        ⟨name, cluster, none, .empty⟩ :=
    Pool.get_add_self _ _
  have hOld : ∀ id, id ≠ app.handles.size →
      (app.withHandle name cluster).handles.get id =
        app.handles.get id :=
    fun _ => Pool.get_add_of_ne _ _
  have hSession : ∀ id session,
      ((app.withHandle name cluster).handles.get id).session =
          some session →
        id ≠ app.handles.size ∧
          (app.handles.get id).session = some session := by
    intro id session hSome
    by_cases hId : id = app.handles.size
    · rw [hId, hNew] at hSome
      contradiction
    · rw [hOld id hId] at hSome
      exact ⟨hId, hSome⟩
  constructor
  case returns => exact h.returns
  case known =>
    intro id session hSome
    exact h.known id session (hSession id session hSome).2
  case apart =>
    intro id other session hSome hOther
    exact
      h.apart id other session (hSession id session hSome).2
        (hSession other session hOther).2
  case made =>
    intro id session hOpened
    rcases h.made id session hOpened with ⟨hMade, hKnown⟩
    exact ⟨Nat.lt_succ_of_lt hMade, hKnown⟩
  case own =>
    intro id session hMade hSome
    rcases hSession id session hSome with ⟨hId, hOwn⟩
    have hLess : id < app.handles.size :=
      Nat.lt_of_le_of_ne (Nat.le_of_lt_succ hMade) hId
    exact h.own id session hLess hOwn
  case live =>
    intro id session hOpened hOpen
    have hMade := (h.made id session hOpened).1
    rw [hOld id (Nat.ne_of_lt hMade)]
    exact h.live id session hOpened hOpen
  case cached =>
    intro id query statement hStatement
    by_cases hId : id = app.handles.size
    · rw [hId, hNew] at hStatement
      contradiction
    · rw [hOld id hId] at hStatement ⊢
      exact h.cached id query statement hStatement
  case complete =>
    intro id session hSome
    rcases hSession id session hSome with ⟨hId, hOwn⟩
    rw [hOld id hId]
    exact h.complete id session hOwn
  case once => exact h.once

end Application

namespace Handle

open Application

variable {app : Application}
variable {id : HandleId}

theorem handles_connectedAs_self :
    (connectedAs app id).handles.get id =
      { app.handles.get id with
        session := some app.fleet.sessions.size
        statements := .empty } :=
  Pool.get_set_self _ _ _

theorem handles_connectedAs_of_ne
    {other : HandleId}
    (hOther : other ≠ id) :
    (connectedAs app id).handles.get other =
      app.handles.get other :=
  Pool.get_set_of_ne _ _ hOther

theorem sessions_connectedAs_self :
    (connectedAs app id).fleet.sessions.get
        app.fleet.sessions.size =
      .start (app.handles.get id).cluster
        (app.handles.get id).name :=
  Pool.get_add_self _ _

theorem sessions_connectedAs_of_ne
    {session : SessionId}
    (hSession : session ≠ app.fleet.sessions.size) :
    (connectedAs app id).fleet.sessions.get session =
      app.fleet.sessions.get session :=
  Pool.get_add_of_ne _ _ hSession

/- Whoever has a session had it before, or is the handle. -/
theorem session_connectedAs
    {opened : HandleId → SessionId → Prop}
    (h : Attached opened app)
    {other : HandleId}
    {session : SessionId}
    (hSome :
      ((connectedAs app id).handles.get other).session =
        some session) :
    other = id ∧ session = app.fleet.sessions.size ∨
      other ≠ id ∧ session ≠ app.fleet.sessions.size ∧
        (app.handles.get other).session = some session := by
  by_cases hId : other = id
  · rw [hId, handles_connectedAs_self] at hSome
    cases hSome
    exact Or.inl ⟨hId, rfl⟩
  · rw [handles_connectedAs_of_ne hId] at hSome
    have hKnown := h.known other session hSome
    exact Or.inr ⟨hId, Nat.ne_of_lt hKnown, hSome⟩

end Handle

namespace Application

open Handle (connectedAs handles_connectedAs_self
  handles_connectedAs_of_ne sessions_connectedAs_self
  sessions_connectedAs_of_ne session_connectedAs)

variable {opened : HandleId → SessionId → Prop}
variable {app : Application}

/- A session that was not open is replaced by a new one. -/
theorem Attached.connectedAs
    (h : Attached opened app)
    {id : HandleId}
    (hClosed :
      (app.handles.get id).openSession? app.fleet = none) :
    Attached
      (openedAfter opened id app (connectedAs app id))
      (connectedAs app id) := by
  constructor
  case returns => exact h.returns
  case known =>
    intro other session hSome
    rcases session_connectedAs h hSome with
      ⟨_, rfl⟩ | ⟨_, _, hBefore⟩
    · exact Nat.lt_succ_self _
    · exact
        Nat.lt_succ_of_lt (h.known other session hBefore)
  case apart =>
    intro other another session hSome hAnother
    rcases session_connectedAs h hSome with
      ⟨rfl, rfl⟩ | ⟨_, hNot, hBefore⟩
    · rcases session_connectedAs h hAnother with
        ⟨rfl, _⟩ | ⟨_, hNot, _⟩
      · rfl
      · exact absurd rfl hNot
    · rcases session_connectedAs h hAnother with
        ⟨_, hSame⟩ | ⟨_, _, hAlso⟩
      · exact absurd hSame hNot
      · exact h.apart other another session hBefore hAlso
  case made =>
    rintro other session (hBefore | ⟨rfl, hMade, _, hNow⟩)
    · rcases h.made other session hBefore with
        ⟨hMade, hKnown⟩
      exact ⟨hMade, Nat.lt_succ_of_lt hKnown⟩
    · exact ⟨hMade, hNow⟩
  case own =>
    intro other session hMade hSome
    rcases session_connectedAs h hSome with
      ⟨rfl, rfl⟩ | ⟨_, _, hBefore⟩
    · exact
        Or.inr
          ⟨rfl, hMade, Nat.le_refl _, Nat.lt_succ_self _⟩
    · exact Or.inl (h.own other session hMade hBefore)
  case live =>
    rintro other session (hBefore | ⟨rfl, _, hFrom, hTo⟩)
      hOpen
    · have hKnown := (h.made other session hBefore).2
      have hWas : app.fleet.isOpen session = true := by
        unfold Fleet.isOpen at hOpen ⊢
        rwa [sessions_connectedAs_of_ne
          (Nat.ne_of_lt hKnown)] at hOpen
      have hId := h.ne_of_closed hClosed hBefore hWas
      rw [handles_connectedAs_of_ne hId]
      exact h.live other session hBefore hWas
    · have hSame : session = app.fleet.sessions.size :=
        Nat.le_antisymm (Nat.le_of_lt_succ hTo) hFrom
      rw [handles_connectedAs_self, hSame]
  case cached =>
    intro other query statement hStatement
    by_cases hId : other = id
    · rw [hId, handles_connectedAs_self] at hStatement
      contradiction
    · rw [handles_connectedAs_of_ne hId] at hStatement ⊢
      rcases h.cached other query statement hStatement with
        ⟨hSome, hQuery, hPrepared⟩
      refine ⟨hSome, hQuery, ?_⟩
      have hKnown := h.known other statement.session hSome
      unfold Fleet.HasPrepared
      rw [sessions_connectedAs_of_ne (Nat.ne_of_lt hKnown)]
      exact hPrepared
  case complete =>
    intro other session hSome
    rcases session_connectedAs h hSome with
      ⟨rfl, rfl⟩ | ⟨hId, hNot, hBefore⟩
    · rw [sessions_connectedAs_self]
      intro query hQuery
      contradiction
    · rw [sessions_connectedAs_of_ne hNot,
        handles_connectedAs_of_ne hId]
      exact h.complete other session hBefore
  case once =>
    intro session
    by_cases hNow : session = app.fleet.sessions.size
    · rw [hNow, sessions_connectedAs_self]
      exact List.nodup_nil
    · rw [sessions_connectedAs_of_ne hNow]
      exact h.once session

end Application

end Keyspaces

------------------------------------------------------------
-- Statements That Are Prepared
------------------------------------------------------------

namespace Keyspaces

namespace Fleet

/- What was prepared stays so when more is prepared. -/
theorem HasPrepared.of_isPrefix
    {before after : Fleet}
    {statement : Statement}
    (h : before.HasPrepared statement)
    (hMore :
      (before.sessions.get statement.session).prepared <+:
        (after.sessions.get statement.session).prepared) :
    after.HasPrepared statement := by
  rcases h with ⟨earlier, later, hBefore, hCount⟩
  rcases hMore with ⟨more, hMore⟩
  refine ⟨earlier, later ++ more, ?_, hCount⟩
  rw [← hMore, hBefore, List.append_assoc,
    List.cons_append]

end Fleet

namespace Handle

/- The statement that is prepared next on a session. -/
def nextStatement
    (app : Application)
    (session : SessionId)
    (query : String) : Statement :=
  let prepared := (app.fleet.sessions.get session).prepared
  ⟨session, prepared.length + 1, query⟩

/- A handle keeps a statement that is prepared for a query. -/
def preparedAs
    (app : Application)
    (id : HandleId)
    (session : SessionId)
    (query : String) : Application :=
  let handle := app.handles.get id
  (app.withFleet (·.recordPrepared session query)).setHandle id
    { handle with
      statements :=
        handle.statements.insert query
          (nextStatement app session query) }

/- A handle forgets its session with its statements. -/
def forgottenAs
    (app : Application)
    (id : HandleId) : Application :=
  app.setHandle id
    { app.handles.get id with
      session := none
      statements := .empty }

end Handle

namespace Handle

variable {app : Application}
variable {id : HandleId}
variable {session : SessionId}
variable {query : String}

theorem handles_preparedAs_self :
    (preparedAs app id session query).handles.get id =
      { app.handles.get id with
        statements :=
          (app.handles.get id).statements.insert query
            (nextStatement app session query) } :=
  Pool.get_set_self _ _ _

theorem handles_preparedAs_of_ne
    {other : HandleId}
    (hOther : other ≠ id) :
    (preparedAs app id session query).handles.get other =
      app.handles.get other :=
  Pool.get_set_of_ne _ _ hOther

/- Preparing a query keeps the sessions of handles. -/
theorem session_preparedAs (other : HandleId) :
    ((preparedAs app id session query).handles.get
        other).session =
      (app.handles.get other).session := by
  by_cases hId : other = id
  · rw [hId, handles_preparedAs_self]
  · rw [handles_preparedAs_of_ne hId]

theorem sessions_preparedAs_self :
    (preparedAs app id session query).fleet.sessions.get
        session =
      { app.fleet.sessions.get session with
        prepared :=
          (app.fleet.sessions.get session).prepared ++
            [query] } :=
  Pool.get_set_self _ _ _

theorem sessions_preparedAs_of_ne
    {other : SessionId}
    (hOther : other ≠ session) :
    (preparedAs app id session query).fleet.sessions.get
        other =
      app.fleet.sessions.get other :=
  Pool.get_set_of_ne _ _ hOther

/- Preparing a query shuts no session down. -/
theorem isOpen_preparedAs
    (app : Application)
    (id : HandleId)
    (session : SessionId)
    (query : String)
    (other : SessionId) :
    (preparedAs app id session query).fleet.isOpen other =
      app.fleet.isOpen other := by
  unfold Fleet.isOpen
  by_cases hOther : other = session
  · rw [hOther, sessions_preparedAs_self]
  · rw [sessions_preparedAs_of_ne hOther]

/- What was prepared stays so when a query is. -/
theorem hasPrepared_preparedAs
    {statement : Statement}
    (hPrepared : app.fleet.HasPrepared statement) :
    (preparedAs app id session query).fleet.HasPrepared
      statement := by
  apply hPrepared.of_isPrefix
  by_cases hSame : statement.session = session
  · rw [hSame, sessions_preparedAs_self]
    exact List.prefix_append _ _
  · simp only [sessions_preparedAs_of_ne hSame,
      List.prefix_rfl]

/- The next statement of a session is prepared then. -/
theorem hasPrepared_nextStatement :
    (preparedAs app id session query).fleet.HasPrepared
      (nextStatement app session query) := by
  refine
    ⟨(app.fleet.sessions.get session).prepared, [], ?_, rfl⟩
  exact congrArg Session.prepared sessions_preparedAs_self

end Handle

namespace Application

open Handle (nextStatement preparedAs forgottenAs
  handles_preparedAs_self handles_preparedAs_of_ne
  session_preparedAs sessions_preparedAs_self
  sessions_preparedAs_of_ne hasPrepared_preparedAs
  hasPrepared_nextStatement)

variable {opened : HandleId → SessionId → Prop}
variable {app : Application}

/- A query that was not prepared on a session yet may be. -/
theorem Attached.preparedAs
    (h : Attached opened app)
    {id : HandleId}
    {session : SessionId}
    {query : String}
    (hSession :
      (app.handles.get id).session = some session)
    (hNew :
      (app.handles.get id).statements.get? query = none) :
    Attached opened (preparedAs app id session query) := by
  have hUnprepared :
      query ∉ (app.fleet.sessions.get session).prepared := by
    intro hQuery
    exact h.complete id session hSession query hQuery hNew
  constructor
  case returns => exact h.returns
  case known =>
    intro other current hSome
    rw [session_preparedAs] at hSome
    exact h.known other current hSome
  case apart =>
    intro other another current hSome hAnother
    rw [session_preparedAs] at hSome hAnother
    exact h.apart other another current hSome hAnother
  case made => exact h.made
  case own =>
    intro other current hMade hSome
    rw [session_preparedAs] at hSome
    exact h.own other current hMade hSome
  case live =>
    intro other current hOpened hOpen
    rw [Handle.isOpen_preparedAs] at hOpen
    rw [session_preparedAs]
    exact h.live other current hOpened hOpen
  case cached =>
    intro other key statement hStatement
    rw [session_preparedAs]
    have hOld :
        (app.handles.get other).statements.get? key =
            some statement ∨
          other = id ∧ key = query ∧
            statement = nextStatement app session query := by
      by_cases hId : other = id
      · rw [hId, handles_preparedAs_self,
          Table.get?_insert] at hStatement
        split at hStatement
        case isTrue hKey =>
          cases hStatement
          exact Or.inr ⟨hId, by simpa using hKey, rfl⟩
        case isFalse =>
          rw [hId]
          exact Or.inl hStatement
      · rw [handles_preparedAs_of_ne hId] at hStatement
        exact Or.inl hStatement
    rcases hOld with hBefore | ⟨rfl, rfl, rfl⟩
    · rcases h.cached other key statement hBefore with
        ⟨hSome, hQuery, hPrepared⟩
      exact ⟨hSome, hQuery, hasPrepared_preparedAs hPrepared⟩
    · exact ⟨hSession, rfl, hasPrepared_nextStatement⟩
  case complete =>
    intro other current hSome key hKey
    rw [session_preparedAs] at hSome
    by_cases hId : other = id
    · subst other
      have hSame : current = session :=
        Option.some.inj (hSome.symm.trans hSession)
      rw [hSame, sessions_preparedAs_self] at hKey
      rw [handles_preparedAs_self, Table.get?_insert]
      rcases List.mem_append.mp hKey with hOld | hLast
      · split
        · simp
        · exact h.complete id session hSession key hOld
      · simp [List.mem_singleton.mp hLast]
    · have hApart : current ≠ session := by
        rintro rfl
        exact hId (h.apart other id current hSome hSession)
      rw [sessions_preparedAs_of_ne hApart] at hKey
      rw [handles_preparedAs_of_ne hId]
      exact h.complete other current hSome key hKey
  case once =>
    intro other
    by_cases hSame : other = session
    · rw [hSame, sessions_preparedAs_self]
      refine List.nodup_append.mpr
        ⟨h.once session, List.pairwise_singleton _ _, ?_⟩
      intro old hOld last hLast
      rw [List.mem_singleton.mp hLast]
      rintro rfl
      exact hUnprepared hOld
    · rw [sessions_preparedAs_of_ne hSame]
      exact h.once other

/- A handle may forget a session that is not open. -/
theorem Attached.forgottenAs
    (h : Attached opened app)
    {id : HandleId}
    (hClosed :
      (app.handles.get id).openSession? app.fleet = none) :
    Attached opened (forgottenAs app id) := by
  have hSelf :
      (Handle.forgottenAs app id).handles.get id =
        { app.handles.get id with
          session := none
          statements := .empty } :=
    Pool.get_set_self _ _ _
  have hOther : ∀ other, other ≠ id →
      (Handle.forgottenAs app id).handles.get other =
        app.handles.get other :=
    fun _ => Pool.get_set_of_ne _ _
  have hSession : ∀ other session,
      ((Handle.forgottenAs app id).handles.get
          other).session = some session →
        other ≠ id ∧
          (app.handles.get other).session = some session := by
    intro other session hSome
    by_cases hId : other = id
    · rw [hId, hSelf] at hSome
      contradiction
    · rw [hOther other hId] at hSome
      exact ⟨hId, hSome⟩
  constructor
  case returns => exact h.returns
  case known =>
    intro other session hSome
    exact h.known other session (hSession other session hSome).2
  case apart =>
    intro other another session hSome hAnother
    exact
      h.apart other another session
        (hSession other session hSome).2
        (hSession another session hAnother).2
  case made => exact h.made
  case own =>
    intro other session hMade hSome
    exact
      h.own other session hMade (hSession other session hSome).2
  case live =>
    intro other session hOpened hOpen
    have hId := h.ne_of_closed hClosed hOpened hOpen
    rw [hOther other hId]
    exact h.live other session hOpened hOpen
  case cached =>
    intro other query statement hStatement
    by_cases hId : other = id
    · rw [hId, hSelf] at hStatement
      contradiction
    · rw [hOther other hId] at hStatement ⊢
      exact h.cached other query statement hStatement
  case complete =>
    intro other session hSome
    rcases hSession other session hSome with ⟨hId, hCurrent⟩
    rw [hOther other hId]
    exact h.complete other session hCurrent
  case once => exact h.once

end Application

end Keyspaces

------------------------------------------------------------
-- Using Handles
------------------------------------------------------------

namespace Keyspaces

namespace Action

/- A query is prepared as the next one of its session. -/
theorem perform_prepareOn
    {app : Application}
    {query : String}
    (hPrepared : query ∉ app.fleet.faults.unprepared)
    (session : SessionId) :
    perform (prepareOn session query) app =
      if Call.prepare query ∈ app.fleet.faults.failing then
        (.error (Call.prepare query).failure, app)
      else
        (.ok (some (Handle.nextStatement app session query)),
          app.withFleet
            (·.recordPrepared session query)) := by
  unfold prepareOn
  rw [perform_bind, perform_attempt]
  by_cases hFails :
      Call.prepare query ∈ app.fleet.faults.failing
  · simp [hFails]
  · have hUnprepared :
        query ∉
          (app.withFleet
            (·.recordPrepared session
              query)).fleet.faults.unprepared :=
      hPrepared
    simp only [List.contains_iff_mem, hFails, if_false]
    rw [perform_bind_of_ok (perform_modify _ _),
      perform_bind_of_ok (perform_get _),
      if_neg hUnprepared, perform_pure]
    simp [Handle.nextStatement, Application.withFleet,
      Fleet.recordPrepared, Fleet.setSession]

end Action

namespace Handle

open Keyspaces.Action Application

/- A session that is answered is current and open. -/
theorem Connected.current
    {app ready : Application}
    {id : HandleId}
    {session : SessionId}
    (h : Connected app id (.ok session, ready)) :
    (ready.handles.get id).session = some session ∧
      ready.fleet.isOpen session = true := by
  cases h with
  | reused hOpen => exact Option.filter_eq_some_iff.mp hOpen
  | opened _ _ =>
      constructor
      · exact
          congrArg Handle.session
            (Pool.get_set_self app.handles id _)
      · unfold connectedAs Fleet.isOpen
        simp [Application.setHandle, withFleet, logged,
          Fleet.addSession, Session.start]

/-
  How preparing a query ends when every query that is prepared
  gets a statement: the handle has no session, or the
  statement is known, or preparing it fails, or it is new.
-/
inductive Prepared
    (app : Application)
    (id : HandleId)
    (query : String) :
    Except Failure (Option Statement) × Application → Prop
| unconnected
    {failure : Failure}
    {after : Application}
    (hConnect :
      (connect id).perform app = (.error failure, after)) :
    Prepared app id query (.error failure, after)
| known
    {session : SessionId}
    {ready : Application}
    {statement : Statement}
    (hConnect :
      (connect id).perform app = (.ok session, ready))
    (hKnown :
      (ready.handles.get id).statements.get? query =
        some statement) :
    Prepared app id query (.ok (some statement), ready)
| refused
    {session : SessionId}
    {ready : Application}
    (hConnect :
      (connect id).perform app = (.ok session, ready))
    (hFails :
      Call.prepare query ∈ ready.fleet.faults.failing) :
    Prepared app id query
      (.error (Call.prepare query).failure, ready)
| prepared
    {session : SessionId}
    {ready : Application}
    (hConnect :
      (connect id).perform app = (.ok session, ready))
    (hNew :
      (ready.handles.get id).statements.get? query = none) :
    Prepared app id query
      (.ok (some (nextStatement ready session query)),
        preparedAs ready id session query)

/- Preparing a query ends in one of these ways. -/
theorem prepared_prepare
    {app : Application}
    {query : String}
    (hPrepared : query ∉ app.fleet.faults.unprepared)
    (id : HandleId) :
    Prepared app id query
      ((prepare id query).perform app) := by
  have hSteady := steady_connect id app
  rw [prepare, perform_bind]
  rcases hConnect : (connect id).perform app with
    ⟨failure | session, ready⟩
  · exact .unconnected hConnect
  · rw [hConnect] at hSteady
    dsimp only
    rw [perform_bind_of_ok (perform_get ready)]
    cases hKnown :
        (ready.handles.get id).statements.get? query with
    | some statement => exact .known hConnect hKnown
    | none =>
        have hUnprepared :
            query ∉ ready.fleet.faults.unprepared := by
          rw [hSteady.faults]
          exact hPrepared
        dsimp only
        rw [perform_bind,
          perform_prepareOn hUnprepared session]
        by_cases hFails :
            Call.prepare query ∈ ready.fleet.faults.failing
        · rw [if_pos hFails]
          exact .refused hConnect hFails
        · rw [if_neg hFails]
          exact .prepared hConnect hKnown

variable {opened : HandleId → SessionId → Prop}
variable {app : Application}

/- Connecting a handle keeps handles attached. -/
theorem attached_connect
    (id : HandleId)
    (h : Attached opened app) :
    Attached
      (openedAfter opened id app
        ((connect id).perform app).2)
      ((connect id).perform app).2 := by
  have hConnected := connected_connect app id
  generalize (connect id).perform app = outcome at *
  cases hConnected with
  | reused _ => exact h.unopened id rfl
  | refused _ _ =>
      have hLogged :
          Attached opened
            (app.logged
              (.connecting (app.handles.get id).name)) :=
        h.of_idle (.of_same rfl rfl rfl)
      exact hLogged.unopened id rfl
  | opened hClosed _ => exact h.connectedAs hClosed

/- Executing a query keeps handles attached. -/
theorem attached_execute
    (id : HandleId)
    (query : String)
    (arguments : List Value)
    (named : List (String × Value))
    (h : Attached opened app) :
    Attached
      (openedAfter opened id app
        ((execute id query arguments named).perform app).2)
      ((execute id query arguments named).perform app).2 := by
  have hConnected := attached_connect id h
  rw [execute, perform_bind]
  rcases hConnect : (connect id).perform app with
    ⟨failure | session, ready⟩
  · rw [hConnect] at hConnected
    exact hConnected
  · rw [hConnect] at hConnected
    dsimp only
    rw [executeOn, perform_bind, perform_attempt]
    by_cases hFails :
        Call.execute query ∈ ready.fleet.faults.failing
    · simp only [List.contains_iff_mem, hFails, if_true]
      exact hConnected
    · simp only [List.contains_iff_mem, hFails, if_false]
      exact hConnected.of_idle (.recordExecuted _ session _)

/- Preparing a query keeps handles attached. -/
theorem attached_prepare
    (id : HandleId)
    (query : String)
    (h : Attached opened app) :
    Attached
      (openedAfter opened id app
        ((prepare id query).perform app).2)
      ((prepare id query).perform app).2 := by
  have hConnected := attached_connect id h
  have hCurrent := connected_connect app id
  have hPrepared :=
    prepared_prepare (h.returns.prepared query) id
  generalize (prepare id query).perform app = outcome at *
  cases hPrepared with
  | unconnected hConnect =>
      rw [hConnect] at hConnected
      exact hConnected
  | known hConnect _ =>
      rw [hConnect] at hConnected
      exact hConnected
  | refused hConnect _ =>
      rw [hConnect] at hConnected
      exact hConnected
  | prepared hConnect hNew =>
      rw [hConnect] at hConnected hCurrent
      exact hConnected.preparedAs hCurrent.current.1 hNew

/- Shutting a handle down keeps handles attached. -/
theorem attached_shutdown
    (id : HandleId)
    (h : Attached opened app) :
    Attached opened ((shutdown id).perform app).2 := by
  rw [shutdown, perform_bind_of_ok (perform_get app),
    perform_bind_of_ok (perform_modify _ app)]
  cases hSession : (app.handles.get id).session with
  | none =>
      have hClosed :
          (app.handles.get id).openSession? app.fleet =
            none := by
        simp [openSession?, hSession]
      exact h.forgottenAs hClosed
  | some session =>
      -- As if it was shut down before it is forgotten.
      let closing := app.withFleet (·.closeSession session)
      have hClosing : Attached opened closing :=
        h.of_idle (.closeSession app session)
      have hClosed :
          (closing.handles.get id).openSession?
              closing.fleet =
            none := by
        simp [closing, openSession?, withFleet,
          Fleet.closeSession, Fleet.setSession,
          Fleet.isOpen, hSession]
      have hPerform :
          (shutdownSession session).perform
              (app.setHandle id
                { app.handles.get id with
                  session := none
                  statements := .empty }) =
            (.ok (), forgottenAs closing id) := by
        have hReturns := h.returns.shutdown session
        rw [shutdownSession, perform_bind, perform_attempt]
        simp [Application.setHandle, hReturns, forgottenAs,
          closing, withFleet]
      dsimp only
      rw [hPerform]
      exact hClosing.forgottenAs hClosed

/-
  What is answered is a statement for the query on the session
  that is current and open then.
-/
theorem answered_prepare
    {id : HandleId}
    {query : String}
    {answer : Option Statement}
    {after : Application}
    (h : Attached opened app)
    (hPrepare :
      (prepare id query).perform app = (.ok answer, after)) :
    ∃ statement,
      answer = some statement ∧
        statement.query = query ∧
          after.fleet.HasPrepared statement ∧
            (after.handles.get id).session =
                some statement.session ∧
              after.fleet.isOpen statement.session = true := by
  have hConnected := attached_connect id h
  have hCurrent := connected_connect app id
  have hPrepared :=
    prepared_prepare (h.returns.prepared query) id
  rw [hPrepare] at hPrepared
  cases hPrepared with
  | @known session _ statement hConnect hKnown =>
      rw [hConnect] at hConnected hCurrent
      rcases hCurrent.current with ⟨hSession, hOpen⟩
      rcases hConnected.cached id query statement hKnown with
        ⟨hSome, hQuery, hHas⟩
      have hSame : statement.session = session :=
        Option.some.inj (hSome.symm.trans hSession)
      rw [← hSame] at hOpen
      exact ⟨statement, rfl, hQuery, hHas, hSome, hOpen⟩
  | @prepared session ready hConnect hNew =>
      rw [hConnect] at hConnected hCurrent
      rcases hCurrent.current with ⟨hSession, hOpen⟩
      have hAfter := hConnected.preparedAs hSession hNew
      have hKept :
          ((preparedAs ready id session query).handles.get
              id).statements.get? query =
            some (nextStatement ready session query) := by
        unfold preparedAs Application.setHandle
        simp
      rcases hAfter.cached id query _ hKept with
        ⟨hSome, hQuery, hHas⟩
      refine ⟨_, rfl, hQuery, hHas, hSome, ?_⟩
      rw [nextStatement, isOpen_preparedAs]
      exact hOpen

/-
  A statement is answered unless the handle cannot be
  connected or preparing the query fails.
-/
theorem exists_prepare_eq_ok
    {id : HandleId}
    {query : String}
    (hPrepared : query ∉ app.fleet.faults.unprepared)
    (hConnects :
      Call.connect (app.handles.get id).cluster ∉
        app.fleet.faults.failing)
    (hPrepares :
      Call.prepare query ∉ app.fleet.faults.failing) :
    ∃ answer after,
      (prepare id query).perform app =
        (.ok answer, after) := by
  have hCurrent := connected_connect app id
  have hSteady := steady_connect id app
  have hOutcome := prepared_prepare hPrepared id
  generalize (prepare id query).perform app = outcome at *
  cases hOutcome with
  | unconnected hConnect =>
      rw [hConnect] at hCurrent
      cases hCurrent with
      | refused _ hFails => exact absurd hFails hConnects
  | refused hConnect hFails =>
      rw [hConnect] at hSteady
      rw [hSteady.faults] at hFails
      exact absurd hFails hPrepares
  | known _ _ => exact ⟨_, _, rfl⟩
  | prepared _ _ => exact ⟨_, _, rfl⟩

end Handle

end Keyspaces
