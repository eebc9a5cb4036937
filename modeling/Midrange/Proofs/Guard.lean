import Midrange.Proofs.Program
import Midrange.Proofs.Script
import Midrange.Rehearsal

/-!
# What a running transaction refuses

While the work of a transaction runs, its session refuses to connect and to begin
another transaction, and nothing changes; this lasts until the work closes the session.
A closed session still refuses a transaction until it is connected again, but it does
connect: the work of a transaction can leave the transaction that way.
-/

namespace Midrange

variable {caller : Caller} {σ α β : Type}

/-! ## Programs with their notices -/

/-- The commands that a running transaction refuses on its session. -/
inductive Guarded where
  | connect
  | transaction
  deriving DecidableEq

/-- What a program tells: that it is about to close a session, and the shared state
before and after a guarded command, with the fault of the command if it failed. -/
inductive Notice where
  | closing (session : Nat)
  | issued (session : Nat) (command : Guarded) (world : World)
  | returned (session : Nat) (command : Guarded) (fault : Option Fault) (world : World)

abbrev chronicle : Caller := ⟨Notice, fun _ => Unit⟩

def Notice.failure : Except Fault α → Option Fault
  | .ok _ => none
  | .error fault => some fault

def Notice.tell (notice : Notice) : Routine chronicle Unit :=
  Routine.ask notice

/-- Tells of a command before and after it. -/
def Notice.around (session : Nat) (command : Guarded) (routine : Routine chronicle α) :
    Routine chronicle α := do
  let world ← Routine.look id
  (Notice.issued session command world).tell
  let outcome ← routine.attempt
  let world ← Routine.look id
  (Notice.returned session command (failure outcome) world).tell
  Routine.ofExcept outcome

/-- What a program does, with its notices. -/
def Program.chronicled : {α : Type} → Program α → Routine chronicle α
  | _, .done value => .done value
  | _, .fail fault => .fail fault
  | _, .bind first second => first.chronicled.bind fun value => (second value).chronicled
  | _, .attempt body => body.chronicled.attempt
  | _, .acquire registry dsn options => Registry.acquire registry dsn options
  | _, .tearDown registry => Registry.tearDown registry
  | _, .globalClose registry => Session.globalClose registry
  | _, .connect session dsn target =>
      Notice.around session .connect (Session.connect session dsn target)
  | _, .close session | _, .release session => do
      (Notice.closing session).tell
      Session.close session
  | _, .dispatch session command sql bindings =>
      Session.dispatch session command sql bindings
  | _, .execute session sql bindings => Session.execute session sql bindings
  | _, .createTable session table => Session.createTable session table
  | _, .select session query bindings => Session.select session query bindings
  | _, .transaction session work =>
      Notice.around session .transaction (Session.transaction session (some work.chronicled))
  | _, .emptyTransaction session =>
      Notice.around session .transaction (Session.transaction session none)
  | _, .commit => Session.commit
  | _, .rollback => Session.rollback

/-! ## Phases of the work -/

/-- The session of a running transaction: in it, closed by the work, or connected
again. -/
inductive Phase where
  | running
  | closed
  | free
  deriving DecidableEq

namespace Phase

/-- The phase behind an entry of the trace. -/
def after (number : Nat) : Phase → Entry chronicle → Phase
  | .running, .aside (.closing session) _ => if session = number then .closed else .running
  | .closed, .aside (.returned session .connect none _) _ =>
      if session = number then .free else .closed
  | phase, _ => phase

/-- The phase behind a trace. -/
def along (number : Nat) (phase : Phase) (trace : List (Entry chronicle)) : Phase :=
  trace.foldl (after number) phase

/-- The misuse that a command is refused for. -/
def refusal? : Phase → Guarded → Option Misuse
  | .running, .connect => some .reconnectInTransaction
  | .running, .transaction => some .nestedTransaction
  | .closed, .transaction => some .notConnected
  | _, _ => none

/-- The sessions that are found in a phase. -/
def Fits : Phase → Session → Prop
  | .running, session => session.Busy
  | .closed, session => session.connection = none ∧ session.isInTransaction = false
  | .free, _ => True

end Phase

/-- Whatever the phase refuses is answered with its refusal at once, and the shared state
is then what it was. -/
def Refused (number : Nat) : Phase → List (Entry chronicle) → Prop
  | _, [] => True
  | phase, entry :: later =>
      (∀ command world misuse, entry = .aside (.issued number command world) () →
        phase.refusal? command = some misuse →
        later.head? =
          some (.aside (.returned number command (some misuse.fault) world) ())) ∧
      Refused number (phase.after number entry) later

section

variable {number : Nat} {phase : Phase} {earlier later trace : List (Entry chronicle)}

theorem Phase.along_append :
    phase.along number (earlier ++ later) = (phase.along number earlier).along number later :=
  List.foldl_append

theorem Phase.along_free : Phase.along number .free trace = .free := by
  induction trace with
  | nil => rfl
  | cons entry later induction => exact induction

theorem Phase.along_unasked (unasked : Unasked trace) : phase.along number trace = phase := by
  induction trace with
  | nil => rfl
  | cons entry later induction =>
      have first := unasked entry List.mem_cons_self
      have rest := induction fun other member => unasked other (List.mem_cons_of_mem _ member)
      cases entry with
      | event | call => cases phase <;> exact rest
      | aside => cases first

theorem Refused.append (first : Refused number phase earlier)
    (second : Refused number (phase.along number earlier) later) :
    Refused number phase (earlier ++ later) := by
  induction earlier generalizing phase with
  | nil => exact second
  | cons entry rest induction =>
      refine ⟨fun command world misuse issued refused => ?_, induction first.2 second⟩
      rw [List.append_eq, List.head?_append, first.1 command world misuse issued refused]
      rfl

/-- Only the notice of a guarded command asks for a refusal. -/
theorem Refused.tell {notice : Notice}
    (unissued : ∀ command world, notice ≠ .issued number command world)
    (rest : Refused number (phase.after number (.aside notice ())) later) :
    Refused number phase (.aside notice () :: later) := by
  refine ⟨fun command world _ issued => ?_, rest⟩
  injection issued with same
  exact (unissued command world same).elim

theorem Refused.free : Refused number .free trace := by
  induction trace with
  | nil => trivial
  | cons entry later induction => exact ⟨fun _ _ _ _ refused => (nomatch refused), induction⟩

theorem Refused.of_unasked (unasked : Unasked trace) : Refused number phase trace := by
  induction trace generalizing phase with
  | nil => trivial
  | cons entry later induction =>
      refine ⟨?_, induction fun other member => unasked other (List.mem_cons_of_mem _ member)⟩
      rintro command world misuse rfl
      exact nomatch unasked _ List.mem_cons_self

/-- What is asked behind a part of a trace is refused in the phase that the part leads
to. -/
theorem Refused.head? (refused : Refused number phase (earlier ++ later))
    {command : Guarded} {world : World} {rest : List (Entry chronicle)} (misuse : Misuse)
    (issued : later = .aside (.issued number command world) () :: rest)
    (refuses : (phase.along number earlier).refusal? command = some misuse) :
    rest.head? = some (.aside (.returned number command (some misuse.fault) world) ()) := by
  induction earlier generalizing phase with
  | nil =>
      subst issued
      exact refused.1 command world misuse rfl refuses
  | cons entry others induction => exact induction refused.2 refuses

end

/-! ## Routines -/

/-- Runs that follow the phases of a session: they refuse what each phase refuses, and
lead to a session of the phase behind their trace. -/
def Guards (number : Nat) (world final : World) (trace : List (Entry chronicle)) : Prop :=
  ∀ phase : Phase, phase.Fits (world.sessions number) →
    Refused number phase trace ∧ (phase.along number trace).Fits (final.sessions number)

/-- The session is as it was, and the caller was not asked for anything. -/
def Elsewhere (number : Nat) (world final : World) (trace : List (Entry caller)) : Prop :=
  final.sessions number = world.sessions number ∧ Unasked trace

variable {number session : Nat} {world : World} {state : σ}

instance : Routine.Path (@Elsewhere caller number) where
  quiet := fun _ _ quiet => ⟨rfl, quiet.unasked⟩
  trans := by
    rintro first middle last earlier later ⟨same, unasked⟩ ⟨same', unasked'⟩
    exact ⟨same'.trans same, unasked_append.mpr ⟨unasked, unasked'⟩⟩

theorem Elsewhere.guards {final : World} {trace : List (Entry chronicle)}
    (elsewhere : Elsewhere number world final trace) : Guards number world final trace := by
  obtain ⟨same, unasked⟩ := elsewhere
  intro phase fits
  rw [Phase.along_unasked unasked, same]
  exact ⟨.of_unasked unasked, fits⟩

instance : Routine.Path (Guards number) where
  quiet := fun _ _ quiet => Elsewhere.guards ⟨rfl, quiet.unasked⟩
  trans := by
    intro first middle last earlier later before after phase fits
    obtain ⟨refused, fits⟩ := before phase fits
    obtain ⟨refused', fits⟩ := after _ fits
    rw [Phase.along_append]
    exact ⟨refused.append refused', fits⟩

namespace Routine

theorem Follows.mono {relation weaker : World → World → List (Entry caller) → Prop}
    {routine : Routine caller α} (follows : routine.Follows relation)
    (implies : ∀ world final trace, relation world final trace → weaker world final trace) :
    routine.Follows weaker :=
  ⟨fun outside world state => (follows.reaches outside world state).mono
    fun _ final _ trace => implies world final trace⟩

theorem Spares.elsewhere {routine : Routine caller α} (spares : routine.Spares) :
    routine.Follows (Elsewhere number) :=
  spares.mono fun _ _ _ ⟨same, unasked⟩ => ⟨congrFun same number, unasked⟩

theorem Spares.guards {routine : Routine chronicle α} (spares : routine.Spares) :
    routine.Follows (Guards number) :=
  spares.elsewhere.mono fun _ _ _ => Elsewhere.guards

theorem Spares.forM {items : List β} {body : β → Routine caller PUnit}
    (spares : ∀ item, (body item).Spares) : (items.forM body).Spares := by
  induction items with
  | nil => exact .remarks (.done _)
  | cons item rest induction => exact Follows.bind (spares item) fun _ => induction

end Routine

theorem Handle.close_spares (handle : Handle) :
    (handle.close : Routine caller Unit).Spares := by
  cases handle with
  | scope number => exact .remarks (.done _)
  | guest number dedicated => exact Routine.spares_perform (.guest number dedicated .close)
  | pool number =>
      exact Routine.Follows.bind (Routine.spares_atomic fun _ => rfl) fun idle =>
        Routine.Spares.forM fun connection =>
          Connection.tolerate_follows (Routine.spares_perform (.driver (.close connection)))

theorem Registry.tearDown_spares (number : Nat) :
    (tearDown number : Routine caller Unit).Spares := by
  apply Routine.Follows.bind (Routine.spares_atomic fun _ => rfl)
  intro entries
  refine Routine.Follows.bind (Routine.Spares.forM fun entry => ?_) fun _ =>
    .remarks (.report _)
  exact Connection.tolerate_follows entry.2.close_spares

theorem Session.Commands.spares {allows : World → Handle → Prop}
    {routine : Routine caller α} (commands : Session.Commands allows routine) :
    routine.Spares := by
  constructor
  intro σ outside world state
  apply commands.reaches
  · intro _ reports quiet
    exact ⟨rfl, quiet.unasked⟩
  · intro handle verb sql bindings _
    apply ((handle.perform_spares verb sql bindings).reaches outside world state).mono
    rintro _ final _ trace ⟨same, unasked⟩ _ before after quiet quiet'
    exact ⟨same, by simp [unasked, quiet.unasked, quiet'.unasked]⟩

/-! ## Commands on the session itself -/

namespace Session

variable {outside : Outside caller σ}

theorem connect_refused (dsn : Option String) (target : Target)
    (running : (world.sessions number).isInTransaction = true) :
    (connect number dsn target).run outside world state =
      ⟨.error Misuse.reconnectInTransaction.fault, world, state, []⟩ := by
  simp [connect, get, Routine.look, Routine.bind, Routine.run, running, Routine.refuse]

theorem transaction_refused_nested {handle : Handle}
    {work : Option (Routine caller (Outcome α))}
    (connected : (world.sessions number).connection = some handle)
    (running : (world.sessions number).isInTransaction = true) :
    (transaction number work).run outside world state =
      ⟨.error Misuse.nestedTransaction.fault, world, state, []⟩ := by
  simp [transaction, requireConnection, get, Routine.look, Routine.bind, Routine.run,
    connected, running, Routine.refuse]

theorem transaction_refused_unconnected {work : Option (Routine caller (Outcome α))}
    (unconnected : (world.sessions number).connection = none) :
    (transaction number work).run outside world state =
      ⟨.error Misuse.notConnected.fault, world, state, []⟩ := by
  simp [transaction, requireConnection, get, Routine.look, Routine.bind, Routine.run,
    unconnected, Routine.refuse]

end Session

section

variable {outside : Outside chronicle σ} {command : Guarded}

theorem Notice.reaches_tell {notice : Notice}
    {post : Except Fault Unit → World → σ → List (Entry chronicle) → Prop} :
    notice.tell.Reaches outside post world state ↔
      post (.ok ()) world (outside.reply notice state).2 [.aside notice ()] := Iff.rfl

theorem Notice.reaches_around {routine : Routine chronicle α}
    {post : Except Fault α → World → List (Entry chronicle) → Prop} :
    (around session command routine).Reaches outside
        (fun outcome final _ trace => post outcome final trace) world state ↔
      routine.Reaches outside (fun outcome final _ trace => post outcome final
        (.aside (.issued session command world) () :: trace ++
          [.aside (.returned session command (failure outcome) final) ()]))
        world (outside.reply (.issued session command world) state).2 := by
  simp only [around, Routine.bind_eq, Routine.reaches_bind, Routine.reaches_look,
    Routine.ends_ok, reaches_tell, Routine.reaches_attempt, Routine.reaches_ofExcept, id,
    List.nil_append, List.append_nil, List.singleton_append]
  exact Iff.rfl

variable {phase : Phase} {trace : List (Entry chronicle)} {fault : Option Fault}
  {final : World}

theorem Refused.around (inner : Refused number phase trace)
    (refuses : session = number → ∀ misuse, phase.refusal? command = some misuse →
      trace = [] ∧ fault = some misuse.fault ∧ final = world) :
    Refused number phase (.aside (.issued session command world) () :: trace ++
      [.aside (.returned session command fault final) ()]) := by
  have issues : phase.after number (.aside (.issued session command world) ()) = phase := by
    cases phase <;> rfl
  refine ⟨?_, ?_⟩
  · intro other asked misuse issued refused
    injection issued with same
    injection same with here same asked
    subst here same asked
    obtain ⟨rfl, rfl, rfl⟩ := refuses rfl misuse refused
    rfl
  · rw [issues]
    exact inner.append (.tell nofun trivial)

theorem Phase.along_around :
    phase.along number (.aside (.issued session command world) () :: trace ++
        [.aside (.returned session command fault final) ()]) =
      (phase.along number trace).after number
        (.aside (.returned session command fault final) ()) := by
  have issues : phase.after number (.aside (.issued session command world) ()) = phase := by
    cases phase <;> rfl
  rw [List.cons_append, along, List.foldl_cons, issues, List.foldl_append]
  rfl

/-- A guarded command of the session: it is refused, or the session is closed and stays
as it is unless the command succeeds. -/
theorem Notice.around_guards {routine : Routine chronicle α}
    (refuses : ∀ {σ : Type} (outside : Outside chronicle σ) (world : World) (state : σ)
      (phase : Phase) (misuse : Misuse), phase.Fits (world.sessions number) →
      phase.refusal? command = some misuse →
      routine.run outside world state = ⟨.error misuse.fault, world, state, []⟩)
    (connects : ∀ {σ : Type} (outside : Outside chronicle σ) (world : World) (state : σ),
      command = .connect → Phase.closed.Fits (world.sessions number) →
      routine.Reaches outside (fun outcome final _ trace => Unasked trace ∧
        (outcome.isOk = false → final.sessions = world.sessions)) world state) :
    (around number command routine).Follows (Guards number) := by
  constructor
  intro σ outside world state
  rw [reaches_around]
  intro phase fits
  rw [Phase.along_around]
  generalize (outside.reply (.issued number command world) state).2 = state
  generalize given : routine.run outside world state = run
  cases refusal : phase.refusal? command with
  | some misuse =>
      cases given.symm.trans (refuses outside world state phase misuse fits refusal)
      refine ⟨.around (.of_unasked unasked_nil) fun _ other same => ?_, ?_⟩
      · cases refusal.symm.trans same
        exact ⟨rfl, rfl, rfl⟩
      · cases phase <;> cases command <;> exact fits
  | none =>
      have allowed (inner : Refused number phase run.trace) : Refused number phase
          (.aside (.issued number command world) () :: run.trace ++
            [.aside (.returned number command (failure run.outcome) run.world) ()]) :=
        inner.around fun _ misuse same => nomatch refusal.symm.trans same
      cases phase with
      | running => cases command <;> cases refusal
      | free =>
          rw [Phase.along_free]
          exact ⟨.free, trivial⟩
      | closed =>
          have connecting : command = .connect := by
            cases command with
            | connect => rfl
            | transaction => cases refusal
          subst connecting
          have reached := connects outside world state rfl fits
          rw [Routine.Reaches, given] at reached
          obtain ⟨unasked, same⟩ := reached
          rw [Phase.along_unasked unasked]
          refine ⟨allowed (.of_unasked unasked), ?_⟩
          cases ended : run.outcome with
          | ok => simp [Phase.after, failure, Phase.Fits]
          | error fault =>
              have kept := same (by rw [ended]; rfl)
              rw [kept]
              exact fits

/-- Connecting keeps the phases of its session. -/
theorem Session.connect_guards (dsn : Option String) (target : Target) :
    (Notice.around number .connect (connect number dsn target)).Follows (Guards number) := by
  apply Notice.around_guards
  · intro σ outside world state phase misuse fits refusal
    cases phase with
    | running =>
        cases refusal
        exact connect_refused dsn target fits.isInTransaction
    | closed | free => cases refusal
  · intro σ outside world state _ fits
    apply connect_reaches
    · intro running
      cases fits.2.symm.trans running
    · intro _ fault final state trace same unasked
      exact ⟨unasked, fun _ => same⟩
    · intro _ handle source final state trace _ unasked
      exact ⟨unasked, nofun⟩

/-- A transaction keeps the phases of its session, whatever its work does: where it is
not refused, nothing is refused. -/
theorem Session.transaction_guards_own (work : Option (Routine chronicle (Outcome α))) :
    (Notice.around number .transaction (transaction number work)).Follows
      (Guards number) := by
  apply Notice.around_guards
  · intro σ outside world state phase misuse fits refusal
    cases phase with
    | running =>
        cases refusal
        obtain ⟨handle, connected⟩ := Option.isSome_iff_exists.mp fits.connected
        exact transaction_refused_nested connected fits.isInTransaction
    | closed =>
        cases refusal
        exact transaction_refused_unconnected fits.1
    | free => cases refusal
  · intro σ outside world state connecting
    cases connecting

theorem Session.close_guards :
    ((Notice.closing number).tell.bind fun _ => close number).Follows (Guards number) := by
  constructor
  intro σ outside world state
  rw [Routine.reaches_bind, Notice.reaches_tell, Routine.ends_ok]
  apply close_reaches
  · intro unconnected _ phase fits
    refine ⟨.tell nofun trivial, ?_⟩
    cases phase with
    | running =>
        have connected := fits.connected
        simp [unconnected] at connected
    | closed => exact fits
    | free => trivial
  · intro reports quiet phase _
    refine ⟨.tell nofun (.of_unasked quiet.unasked), ?_⟩
    rw [Phase.along_append, Phase.along_unasked quiet.unasked, World.changeSession_self]
    cases phase with
    | running =>
        have closes : Phase.along number .running [.aside (.closing number) ()] = .closed :=
          if_pos rfl
        rw [closes]
        exact ⟨rfl, rfl⟩
    | closed => exact ⟨rfl, rfl⟩
    | free => trivial

/-! ## Commands on other sessions -/

theorem Notice.around_guards_of_ne (different : session ≠ number)
    {routine : Routine chronicle α} (guards : routine.Follows (Guards number)) :
    (around session command routine).Follows (Guards number) := by
  constructor
  intro σ outside world state
  rw [reaches_around]
  apply (guards.reaches outside world _).mono
  intro outcome final _ trace inner phase fits
  obtain ⟨refused, fits⟩ := inner phase fits
  refine ⟨.around refused fun same => (different same).elim, ?_⟩
  rw [Phase.along_around]
  -- The answer to another session does not end the phase.
  have stays (phase : Phase) (fault : Option Fault) : phase.after number
      (.aside (.returned session command fault final) ()) = phase := by
    cases phase <;> cases command <;> cases fault <;> simp [Phase.after, different]
  rw [stays]
  exact fits

theorem Session.change_elsewhere (different : session ≠ number) (update : Session → Session) :
    (change session update : Routine caller Unit).Follows (Elsewhere number) :=
  ⟨fun _ world _ => ⟨assign_of_ne world.sessions _ (Ne.symm different), unasked_nil⟩⟩

theorem Session.connect_elsewhere (different : session ≠ number) (dsn : Option String)
    (target : Target) :
    (connect session dsn target : Routine caller Unit).Follows (Elsewhere number) := by
  apply Routine.Follows.bind (.remarks (.look _))
  intro found
  by_cases running : found.isInTransaction = true
  · rw [if_pos running]
    exact .remarks (.fail _)
  · rw [if_neg running]
    apply Routine.Follows.bind (Registry.acquire_spares _ _ _).elsewhere.attempt
    rintro (fault | handle)
    · by_cases ordinary : fault.isOrdinary = true
      · simp only [ordinary, if_true]
        exact .remarks (.bind (.report _) fun _ => .fail _)
      · simp only [ordinary]
        exact .remarks (.fail _)
    · exact .bind (change_elsewhere different _) fun _ => .remarks (report_remarks _ _)

theorem Session.close_elsewhere (different : session ≠ number) :
    (close session : Routine caller Unit).Follows (Elsewhere number) := by
  apply Routine.Follows.bind (.remarks (.look _))
  intro found
  split
  · exact .remarks (.done _)
  · exact .bind (change_elsewhere different _) fun _ => .remarks (report_remarks _ _)

theorem Session.close_guards_of_ne (different : session ≠ number) :
    ((Notice.closing session).tell.bind fun _ => close session).Follows (Guards number) := by
  apply Routine.Follows.bind
  · constructor
    intro σ outside world state
    rw [Notice.reaches_tell]
    intro phase fits
    refine ⟨.tell nofun trivial, ?_⟩
    have stays : phase.along number [.aside (.closing session) ()] = phase := by
      cases phase with
      | running => exact if_neg different
      | closed | free => rfl
    rw [stays]
    exact fits
  · intro _
    exact (close_elsewhere different).mono fun _ _ _ => Elsewhere.guards

theorem Session.transaction_guards_of_ne (different : session ≠ number)
    {work : Option (Routine chronicle (Outcome α))}
    (guards : ∀ routine, work = some routine → routine.Follows (Guards number)) :
    (transaction session work).Follows (Guards number) := by
  have guardsValue := workValue_follows guards
  constructor
  intro σ outside world state
  have changed (world : World) (update : Session → Session) :
      (world.changeSession session update).sessions number = world.sessions number :=
    assign_of_ne world.sessions _ (Ne.symm different)
  apply transaction_reaches
  · intro _ fault
    exact Elsewhere.guards ⟨rfl, unasked_nil⟩
  intro handle _ _
  apply Handle.transaction_reaches
  · intro fault final state trace same unasked reports quiet
    exact Elsewhere.guards ⟨congrFun same number, by simp [unasked, quiet.unasked]⟩
  intro inner entered state before same unasked
  apply scope_reaches
  intro started quiet
  apply (guardsValue.reaches outside _ state).mono
  intro _ left _ trace inside _ final _ after same' unasked' reports quiet'
  have entering : Guards number world (entered.changeSession session (enterScope inner))
      (before ++ started) :=
    Elsewhere.guards ⟨by rw [changed, same], by simp [unasked, quiet.unasked]⟩
  have leaving : Guards number left final (after ++ reports) :=
    Elsewhere.guards ⟨by rw [same', changed], by simp [unasked', quiet'.unasked]⟩
  have path : Routine.Path (Guards number) := inferInstance
  have whole := path.trans _ _ _ _ _ (path.trans _ _ _ _ _ entering inside) leaving
  simpa only [List.append_assoc] using whole

end

/-! ## Programs -/

/-- Every program keeps the phases of a session. -/
theorem Program.chronicled_guards (number : Nat) (program : Program α) :
    program.chronicled.Follows (Guards number) := by
  induction program with
  | done value => exact .remarks (.done value)
  | fail fault => exact .remarks (.fail fault)
  | bind first second before after => exact .bind before after
  | attempt body guards => exact .attempt guards
  | acquire registry dsn options => exact (Registry.acquire_spares registry dsn options).guards
  | tearDown registry => exact (Registry.tearDown_spares registry).guards
  | globalClose registry => exact (Registry.tearDown_spares _).guards
  | connect session dsn target =>
      by_cases own : session = number
      · exact own ▸ Session.connect_guards dsn target
      · exact Notice.around_guards_of_ne own
          ((Session.connect_elsewhere own dsn target).mono fun _ _ _ => Elsewhere.guards)
  | close session | release session =>
      by_cases own : session = number
      · exact own ▸ Session.close_guards
      · exact Session.close_guards_of_ne own
  | dispatch session command sql bindings =>
      exact (Session.dispatch_commands session command sql bindings).spares.guards
  | execute session sql bindings =>
      exact (Session.execute_commands session sql bindings).spares.guards
  | createTable session table => exact (Session.createTable_commands session table).spares.guards
  | select session query bindings =>
      exact (Session.select_commands session query bindings).spares.guards
  | transaction session work guards =>
      by_cases own : session = number
      · exact own ▸ Session.transaction_guards_own _
      · refine Notice.around_guards_of_ne own (Session.transaction_guards_of_ne own ?_)
        rintro _ ⟨⟩
        exact guards
  | emptyTransaction session =>
      by_cases own : session = number
      · exact own ▸ Session.transaction_guards_own none
      · exact Notice.around_guards_of_ne own (Session.transaction_guards_of_ne own nofun)
  | commit | rollback => exact .remarks (.fail _)

/-! ## Transactions -/

section

variable {number : Nat} {trace before : List (Entry chronicle)}

theorem Phase.along_running (unclosed : .aside (.closing number) () ∉ before) :
    Phase.running.along number before = .running := by
  induction before with
  | nil => rfl
  | cons entry rest induction =>
      rw [List.mem_cons, not_or] at unclosed
      have stays : Phase.running.after number entry = .running := by
        unfold Phase.after
        split
        · exact if_neg fun same => unclosed.1 (by rw [same])
        · rename_i equal
          cases equal
        · rfl
      rw [along, List.foldl_cons, stays]
      exact induction unclosed.2

theorem Phase.along_ne_free (phase : Phase) (bound : phase ≠ .free)
    (unconnected : ∀ world, .aside (.returned number .connect none world) () ∉ before) :
    phase.along number before ≠ .free := by
  induction before generalizing phase with
  | nil => exact bound
  | cons entry rest induction =>
      refine induction _ ?_ fun world member => unconnected world (List.mem_cons_of_mem _ member)
      unfold Phase.after
      split
      · split <;> nofun
      · rename_i session world _
        refine fun free => unconnected world ?_
        split at free
        · rename_i own
          exact own ▸ List.mem_cons_self
        · cases free
      · exact bound

/-- What the session of a transaction refuses while the work runs. -/
structure Guarded.Kept (number : Nat) (trace : List (Entry chronicle)) : Prop where
  /-- Until the work closes the session, it neither connects nor begins a transaction. -/
  unclosed : ∀ before command asked rest,
    trace = before ++ .aside (.issued number command asked) () :: rest →
    .aside (.closing number) () ∉ before →
    ∃ misuse : Misuse, misuse.kind = .unsupported ∧
      rest.head? = some (.aside (.returned number command (some misuse.fault) asked) ())
  /-- Until the closed session is connected again, it begins no transaction. -/
  unconnected : ∀ before asked rest,
    trace = before ++ .aside (.issued number .transaction asked) () :: rest →
    (∀ world, .aside (.returned number .connect none world) () ∉ before) →
    ∃ misuse : Misuse,
      rest.head? = some (.aside (.returned number .transaction (some misuse.fault) asked) ())

theorem Refused.kept (refused : Refused number .running trace) : Guarded.Kept number trace where
  unclosed := by
    rintro before command asked rest rfl unclosed
    have answered := fun misuse => refused.head? misuse rfl
    rw [Phase.along_running unclosed] at answered
    cases command with
    | connect => exact ⟨.reconnectInTransaction, rfl, answered _ rfl⟩
    | transaction => exact ⟨.nestedTransaction, rfl, answered _ rfl⟩
  unconnected := by
    rintro before asked rest rfl unconnected
    have bound := Phase.along_ne_free .running nofun unconnected
    have answered := fun misuse => refused.head? misuse rfl
    cases phase : Phase.running.along number before with
    | running => exact ⟨.nestedTransaction, answered _ (by rw [phase]; rfl)⟩
    | closed => exact ⟨.notConnected, answered _ (by rw [phase]; rfl)⟩
    | free => exact (bound phase).elim

end

/-- Inside a transaction its session refuses both commands, without any change to the
shared state, unless the work has closed it. -/
theorem Session.transaction_guarded (number : Nat) (work : Program (Outcome α))
    (outside : Outside chronicle σ) (world : World) (state : σ) :
    Guarded.Kept number
      ((transaction number (some work.chronicled)).run outside world state).trace := by
  apply Refused.kept
  have follows : (workValue (some work.chronicled)).Follows (Guards number) :=
    workValue_follows fun _ same => Option.some.inj same ▸ work.chronicled_guards number
  have reaches : (transaction number (some work.chronicled)).Reaches outside
      (fun _ _ _ trace => Refused number .running trace) world state := by
    apply transaction_reaches
    · exact fun _ _ => .of_unasked unasked_nil
    intro handle _ _
    apply Handle.transaction_reaches
    · intro fault final state trace _ unasked reports quiet
      exact .of_unasked (by simp [unasked, quiet.unasked])
    intro inner entered state before _ unasked
    apply scope_reaches
    intro started quiet
    apply (follows.reaches outside _ state).mono
    intro _ left _ trace inside _ _ _ after _ unasked' reports quiet'
    have busy : Phase.running.Fits
        ((entered.changeSession number (enterScope inner)).sessions number) := by
      rw [World.changeSession_self]
      exact enterScope_busy inner _
    have leads : Unasked (before ++ started) := by simp [unasked, quiet.unasked]
    have ends : Unasked (after ++ reports) := by simp [unasked', quiet'.unasked]
    have worked : Refused number (Phase.running.along number (before ++ started)) trace := by
      rw [Phase.along_unasked leads]
      exact (inside .running busy).1
    have whole := ((Refused.of_unasked leads).append worked).append (.of_unasked ends)
    simpa only [List.append_assoc] using whole
  exact reaches

/-- Work that closes the session of its transaction and connects it again makes another
pool and begins another transaction on it. -/
example :
    let work : Program (Outcome (Option Unit)) :=
      .bind (.close 0) fun _ => .bind (.connect 0 (some "second") {}) fun _ =>
        .bind (.emptyTransaction 0) fun value => .done (.plain value)
    let told : Outside chronicle Rehearsal :=
      { answer := Rehearsal.answer, reply := fun _ rehearsal => ((), rehearsal) }
    let run := (Program.bind (.connect 0 (some "first") {}) fun _ =>
      .transaction 0 work).chronicled.run told {} {}
    run.outcome = .ok (some none) ∧ run.world.poolCount = 2 ∧ run.world.scopeCount = 2 :=
  ⟨rfl, rfl, rfl⟩

end Midrange
