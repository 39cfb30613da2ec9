import HandlerPipeline.Chain.Command
import HandlerPipeline.Proofs.Chain.Calls

/-!
# Stopped chains stay stopped

A machine takes commands in any order, and its state and its control need not agree: the state may
be stopped though nobody has asked the control to stop, or the other way round. In both cases the
next checkpoint finds it stopped (`Machine.IsSettled`), and the machine rests under all commands
that drive a chain (`Command.Drives`, `Machine.run_of_isSettled`): what handlers see and change
stays as it is. No state is settled twice, unless the machine begins with such a state
(`Machine.not_isNested_run`). Calls are noted as in `calls`, which changes nothing else
(`Machine.run_noting`); they show that a link calls the handler it has for the state wherever the
control was not asked to stop (`Machine.calls_advance_eq_nil_iff`). The theorem
`Machine.run_absorbing` puts these together.
-/

namespace HandlerPipeline.Chain

variable {World : Type}

/-! ## Running commands -/

/-- The command drives the chain: it passes a link or a checkpoint, or asks the control to stop. -/
inductive Command.Drives : Command World → Prop where
  | advance (link : Link World) : Drives (.advance link)
  | checkpoint : Drives .checkpoint
  | stop : Drives .stop

/-- The machine after some commands, one after the other, and the errors that they end with. -/
def Machine.run (m : Machine World) : List (Command World) → Machine World × List Error
  | [] => (m, [])
  | command :: rest =>
    (((command.perform m).1.run rest).1,
      (command.perform m).2.toList ++ ((command.perform m).1.run rest).2)

/-- Commands are carried out one part of them after the other. -/
theorem Machine.run_append (m : Machine World) (commands more : List (Command World)) :
    m.run (commands ++ more) =
      (((m.run commands).1.run more).1, (m.run commands).2 ++ ((m.run commands).1.run more).2) := by
  induction commands generalizing m with
  | nil => rfl
  | cons command rest ih => rw [List.cons_append, run, ih, run, List.append_assoc]

/-! ## States that are settled twice -/

/-- The state is settled twice. -/
inductive State.IsNested : State → Prop where
  | intro (settled : State) : IsNested (.stopped (.stopped settled))

section States

variable {control : Nat} {s : Session World} {state next : State} {link : Link World}

/-- A checkpoint leaves a stopped state alone, so it settles no state twice. -/
theorem not_isNested_checkpoint (h : ¬ state.IsNested) :
    ¬ (checkpoint control s state).IsNested := by
  unfold checkpoint
  split
  · exact h
  · next hstopped =>
    split
    · rintro ⟨settled⟩
      exact hstopped settled rfl
    · exact h

/-- The outcome of a handler is no stopped state. -/
theorem not_isNested_settle {h : Handler World} (hsettle : (settle h s).2 = .ok next) :
    ¬ next.IsNested := by
  rw [settle_eq] at hsettle
  rcases Outcome.toState_eq_ok hsettle with ⟨d, -, rfl⟩ | ⟨e, -, -, rfl⟩ <;> exact nofun

/-- The phase on the success arm settles no state twice. -/
theorem not_isNested_successPhase (h : ¬ state.IsNested)
    (hphase : (successPhase link state s).2 = .ok next) : ¬ next.IsNested := by
  unfold successPhase at hphase
  split at hphase
  · exact not_isNested_settle hphase
  · cases hphase
    exact h

/-- The phase on the failure arm settles no state twice. -/
theorem not_isNested_failurePhase (h : ¬ state.IsNested)
    (hphase : (failurePhase link state s).2 = .ok next) : ¬ next.IsNested := by
  unfold failurePhase at hphase
  split at hphase
  · exact not_isNested_settle hphase
  · cases hphase
    exact h

/-- Both phases, and the checkpoint between them, settle no state twice. -/
theorem not_isNested_bothPhases (h : ¬ state.IsNested)
    (hphases : (bothPhases control link state s).2 = .ok next) : ¬ next.IsNested := by
  unfold bothPhases at hphases
  split at hphases
  · cases hphases
  · next between hsuccess =>
    have hbetween := not_isNested_successPhase h (congrArg Prod.snd hsuccess)
    exact not_isNested_failurePhase (not_isNested_checkpoint hbetween) hphases

/-- Passing a link settles no state twice. -/
theorem not_isNested_advance (h : ¬ state.IsNested)
    (hadvance : (advance control link state s).2 = .ok next) : ¬ next.IsNested := by
  have hentered : ¬ (checkpoint control s state).IsNested := not_isNested_checkpoint h
  unfold advance at hadvance
  split at hadvance
  · next settled hstopped =>
    cases hadvance
    rwa [hstopped] at hentered
  · exact not_isNested_bothPhases hentered hadvance

end States

/-- A command that drives the chain settles no state twice. -/
theorem Command.Drives.not_isNested_perform {m : Machine World} {command : Command World}
    (hdrives : command.Drives) (h : ¬ m.state.IsNested) :
    ¬ (command.perform m).1.state.IsNested := by
  cases hdrives with
  | advance link =>
    rw [perform]
    cases hadvance : Chain.advance m.control link m.state m.session with
    | mk s' r =>
      cases r with
      | error e => exact h
      | ok next => exact not_isNested_advance h (congrArg Prod.snd hadvance)
  | checkpoint => exact not_isNested_checkpoint h
  | stop => exact h

/-- However a chain is driven, no state is settled twice. -/
theorem Machine.not_isNested_run {m : Machine World} {commands : List (Command World)}
    (hdrive : ∀ command ∈ commands, command.Drives) (h : ¬ m.state.IsNested) :
    ¬ (m.run commands).1.state.IsNested := by
  induction commands generalizing m with
  | nil => exact h
  | cons command rest ih =>
    rw [List.forall_mem_cons] at hdrive
    exact ih hdrive.2 (hdrive.1.not_isNested_perform h)

/-! ## Machines at rest -/

/-- Nothing that a handler sees or changes differs between the two sessions, and no request to stop
is lost; more lines may be logged. -/
structure Session.Kept (s s' : Session World) : Prop where
  record_eq : s'.record = s.record
  issued_eq : s'.issued = s.issued
  world_eq : s'.world = s.world
  isStopped : ∀ control, s.isStopped control = true → s'.isStopped control = true

/-- The next checkpoint finds the chain stopped, in a state that it settles or finds settled. -/
def Machine.IsSettled (m : Machine World) (settled : State) : Prop :=
  checkpoint m.control m.session m.state = .stopped settled

/-- The second machine is the first one at rest: its session is kept, and so is its state, up to
being settled. -/
structure Machine.Rests (m : Machine World) (settled : State) (m' : Machine World) : Prop where
  control_eq : m'.control = m.control
  state : m'.state = m.state ∨ m'.state = .stopped settled
  kept : m.session.Kept m'.session

section Rest

variable {control : Nat} {s s' : Session World} {state settled : State} {m m' m'' : Machine World}

theorem Session.Kept.refl (s : Session World) : s.Kept s := ⟨rfl, rfl, rfl, fun _ h => h⟩

theorem Session.Kept.trans {s'' : Session World} (h : s.Kept s') (h' : s'.Kept s'') :
    s.Kept s'' :=
  ⟨h'.record_eq.trans h.record_eq, h'.issued_eq.trans h.issued_eq, h'.world_eq.trans h.world_eq,
    fun control hs => h'.isStopped control (h.isStopped control hs)⟩

/-- A request to stop keeps the session, and those made before it. -/
theorem Session.kept_stop (control : Nat) (s : Session World) : s.Kept (s.stop control) := by
  refine ⟨rfl, rfl, rfl, fun asked hasked => ?_⟩
  rw [isStopped_stop, hasked, Bool.or_true]

/-- What a checkpoint finds stopped, it finds stopped in a session that keeps the requests. -/
theorem checkpoint_of_kept (hkept : s.Kept s') (h : checkpoint control s state = .stopped settled) :
    checkpoint control s' state = .stopped settled := by
  cases state with
  | stopped inner => exact h
  | succeeded _ | failed _ =>
    simp only [checkpoint] at h ⊢
    split at h
    · next hs =>
      rw [if_pos (hkept.isStopped control hs)]
      exact h
    · cases h

/-- Once the control was asked to stop, the next checkpoint finds the chain stopped. -/
theorem Machine.exists_isSettled (h : m.isStopped = true) : ∃ settled, m.IsSettled settled := by
  unfold IsSettled checkpoint
  split
  · next settled _ => exact ⟨settled, rfl⟩
  · exact ⟨m.state, if_pos h⟩

/-- So it does in a stopped state, whether or not anybody asked the control to stop. -/
theorem Machine.isSettled_of_stopped (h : m.state = .stopped settled) : m.IsSettled settled := by
  rw [IsSettled, h]
  rfl

theorem Machine.Rests.refl (m : Machine World) (settled : State) : m.Rests settled m :=
  ⟨rfl, .inl rfl, .refl _⟩

theorem Machine.Rests.trans (h : m.Rests settled m') (h' : m'.Rests settled m'') :
    m.Rests settled m'' where
  control_eq := h'.control_eq.trans h.control_eq
  state := by
    rcases h'.state with hsame | hstopped
    · rw [hsame]
      exact h.state
    · exact .inr hstopped
  kept := h.kept.trans h'.kept

/-- A machine at rest stays there. -/
theorem Machine.IsSettled.of_rests (h : m.IsSettled settled) (hrests : m.Rests settled m') :
    m'.IsSettled settled := by
  rcases hrests.state with hsame | hstopped
  · rw [IsSettled, hsame, hrests.control_eq]
    exact checkpoint_of_kept hrests.kept h
  · exact isSettled_of_stopped hstopped

/-- A stopped state stays as it is where the machine rests. -/
theorem Machine.Rests.state_of_stopped (h : m.Rests settled m')
    (hstate : m.state = .stopped settled) : m'.state = .stopped settled := by
  rcases h.state with hsame | hstopped
  · rw [hsame, hstate]
  · exact hstopped

/-- A link is passed over where the checkpoint before it finds the chain stopped. -/
theorem advance_of_checkpoint (h : checkpoint control s state = .stopped settled)
    (link : Link World) :
    advance control link state s = (s.logging [link.skippedLine], .ok (.stopped settled)) := by
  rw [advance, h]
  rfl

/-- The machine rests under a command that drives the chain. -/
theorem Command.Drives.perform_of_isSettled {command : Command World} (hdrives : command.Drives)
    (h : m.IsSettled settled) :
    (command.perform m).2 = none ∧ m.Rests settled (command.perform m).1 := by
  cases hdrives with
  | advance link =>
    rw [perform, advance_of_checkpoint h]
    exact ⟨rfl, rfl, .inr rfl, rfl, rfl, rfl, fun _ hs => hs⟩
  | checkpoint => exact ⟨rfl, rfl, .inr h, .refl _⟩
  | stop => exact ⟨rfl, rfl, .inl rfl, Session.kept_stop _ _⟩

/-- So it does under any number of them, and none ends with an error. -/
theorem Machine.run_of_isSettled {commands : List (Command World)}
    (hdrive : ∀ command ∈ commands, command.Drives) (h : m.IsSettled settled) :
    (m.run commands).2 = [] ∧ m.Rests settled (m.run commands).1 := by
  induction commands generalizing m with
  | nil => exact ⟨rfl, .refl _ _⟩
  | cons command rest ih =>
    rw [List.forall_mem_cons] at hdrive
    obtain ⟨hnone, hstep⟩ := hdrive.1.perform_of_isSettled h
    obtain ⟨hnil, hrest⟩ := ih hdrive.2 (h.of_rests hstep)
    refine ⟨?_, hstep.trans hrest⟩
    rw [run, hnone, hnil]
    rfl

end Rest

/-! ## Watching a machine -/

/-- The session, with calls noted beside its world. -/
def Session.noting (s : Session World) (seen : List (Call World)) : Session (Watched World) :=
  s.inWorld ⟨s.world, seen⟩

/-- The machine, with calls noted beside its world. -/
def Machine.noting (m : Machine World) (seen : List (Call World)) : Machine (Watched World) :=
  ⟨m.session.noting seen, m.control, m.state⟩

/-- The link whose handlers note their calls, at their places in the link. -/
def Link.watched (link : Link World) : Link (Watched World) :=
  ⟨link.success?.map (Handler.watched 0),
    link.failure?.map (Handler.watched link.success?.toList.length), link.label⟩

/-- The command whose handlers note their calls. -/
def Command.watched : Command World → Command (Watched World)
  | advance link => .advance link.watched
  | settle h => .settle (h.watched 0)
  | checkpoint => .checkpoint
  | stop => .stop
  | callEnd => .callEnd
  | record d => .record d
  | setState state => .setState state

/-- The calls that handlers get while the machine runs, in order. -/
def Machine.calls (m : Machine World) (commands : List (Command World)) : List (Call World) :=
  ((m.noting []).run (commands.map Command.watched)).1.session.world.calls

/-- A watched result is the result itself, but for the calls that are noted beyond those seen
before. -/
def Noted {Result : Type} (seen : List (Call World)) (plain : Session World × Result)
    (watched : Session (Watched World) × Result) : Prop :=
  ∃ new, watched = (plain.1.noting (seen ++ new), plain.2)

section Watching

variable {control : Nat} {s : Session World} {state : State} {seen : List (Call World)}

/-- Where no handler is called, no call is noted. -/
theorem Noted.unchanged {Result : Type} (s : Session World) (seen : List (Call World))
    (result : Result) : Noted seen (s, result) (s.noting seen, result) :=
  ⟨[], by rw [List.append_nil]⟩

/-- A handler notes its call. -/
theorem settle_watched (place : Nat) (h : Handler World) (s : Session World)
    (seen : List (Call World)) :
    settle (h.watched place) (s.noting seen) =
      ((settle h s).1.noting (seen ++ [⟨place, s, (h.invoke s).1, (h.invoke s).2⟩]),
        (settle h s).2) := by
  rw [settle_eq, settle_eq]
  rfl

/-- The phase on the success arm notes the call that it makes, if any. -/
theorem noted_successPhase (link : Link World) (state : State) (s : Session World)
    (seen : List (Call World)) :
    Noted seen (successPhase link state s) (successPhase link.watched state (s.noting seen)) := by
  obtain ⟨success?, failure?, label⟩ := link
  cases state with
  | succeeded d =>
    cases success? with
    | none => exact .unchanged _ _ _
    | some h => exact ⟨_, settle_watched 0 h (s.setPrev d) seen⟩
  | failed e => exact .unchanged _ _ _
  | stopped settled => exact .unchanged _ _ _

/-- So does the phase on the failure arm. -/
theorem noted_failurePhase (link : Link World) (state : State) (s : Session World)
    (seen : List (Call World)) :
    Noted seen (failurePhase link state s) (failurePhase link.watched state (s.noting seen)) := by
  obtain ⟨success?, failure?, label⟩ := link
  cases state with
  | succeeded d => exact .unchanged _ _ _
  | failed e =>
    cases failure? with
    | none => exact .unchanged _ _ _
    | some h => exact ⟨_, settle_watched _ h (s.setPrev (.error e)) seen⟩
  | stopped settled => exact .unchanged _ _ _

/-- Both phases note their calls one behind the other. -/
theorem noted_bothPhases (control : Nat) (link : Link World) (state : State) (s : Session World)
    (seen : List (Call World)) :
    Noted seen (bothPhases control link state s)
      (bothPhases control link.watched state (s.noting seen)) := by
  obtain ⟨first, hfirst⟩ := noted_successPhase link state s seen
  rw [bothPhases, bothPhases, hfirst]
  cases successPhase link state s with
  | mk s' r =>
    cases r with
    | error e => exact ⟨first, rfl⟩
    | ok state' =>
      obtain ⟨second, hsecond⟩ :=
        noted_failurePhase link (checkpoint control s' state') s' (seen ++ first)
      rw [List.append_assoc] at hsecond
      exact ⟨first ++ second, hsecond⟩

/-- Passing a link notes its calls. -/
theorem noted_advance (control : Nat) (link : Link World) (state : State) (s : Session World)
    (seen : List (Call World)) :
    Noted seen (advance control link state s)
      (advance control link.watched state (s.noting seen)) := by
  have hcheckpoint : checkpoint control (s.noting seen) state = checkpoint control s state := rfl
  rw [advance, advance, hcheckpoint]
  split
  · exact .unchanged (s.say .debug ("Skipped step " ++ link.label ++ ": pipeline stopped")) _ _
  · exact noted_bothPhases control link _ s seen

/-- What a machine becomes after a phase, it becomes with the calls of that phase noted. -/
theorem Noted.after {plain : Session World × Except Error State}
    {watched : Session (Watched World) × Except Error State} (h : Noted seen plain watched)
    (m : Machine World) :
    ∃ new, (m.noting seen).after watched =
      ((m.after plain).1.noting (seen ++ new), (m.after plain).2) := by
  obtain ⟨new, rfl⟩ := h
  obtain ⟨s', r⟩ := plain
  cases r <;> exact ⟨new, rfl⟩

/-- A command does the same to a machine whose calls are noted. -/
theorem Command.perform_noting (command : Command World) (m : Machine World)
    (seen : List (Call World)) :
    ∃ new, command.watched.perform (m.noting seen) =
      ((command.perform m).1.noting (seen ++ new), (command.perform m).2) := by
  cases command with
  | advance link => exact (noted_advance m.control link m.state m.session seen).after m
  | settle h => exact Noted.after ⟨_, settle_watched 0 h m.session seen⟩ m
  | callEnd =>
    refine ⟨[], ?_⟩
    have hend : (m.session.noting seen).callEnd =
        m.session.callEnd.map fun s => s.noting seen := by
      unfold Session.callEnd
      have hrecord : (m.session.noting seen).record = m.session.record := rfl
      rw [hrecord]
      split <;> rfl
    rw [List.append_nil, watched, perform, perform]
    have hsession : (m.noting seen).session = m.session.noting seen := rfl
    rw [hsession, hend]
    cases m.session.callEnd <;> rfl
  | checkpoint | stop | record _ | setState _ => exact ⟨[], by rw [List.append_nil]; rfl⟩

/-- So does a run. -/
theorem Machine.run_noting (m : Machine World) (commands : List (Command World))
    (seen : List (Call World)) :
    ∃ new, (m.noting seen).run (commands.map Command.watched) =
      ((m.run commands).1.noting (seen ++ new), (m.run commands).2) := by
  induction commands generalizing m seen with
  | nil => exact ⟨[], by rw [List.append_nil]; rfl⟩
  | cons command rest ih =>
    obtain ⟨first, hfirst⟩ := command.perform_noting m seen
    obtain ⟨second, hsecond⟩ := ih (command.perform m).1 (seen ++ first)
    refine ⟨first ++ second, ?_⟩
    rw [List.map_cons, run, hfirst, hsecond, run, List.append_assoc]

/-- The calls of a machine are those that its watched run notes. -/
theorem Machine.run_watched (m : Machine World) (commands : List (Command World)) :
    (m.noting []).run (commands.map Command.watched) =
      ((m.run commands).1.noting (m.calls commands), (m.run commands).2) := by
  obtain ⟨new, hrun⟩ := m.run_noting commands []
  have hcalls : m.calls commands = new := by
    rw [calls, hrun]
    rfl
  rw [hcalls, hrun, List.nil_append]

end Watching

/-! ## The calls of one link -/

/-- The handler of a link for a state, if it has one. -/
def Link.handler? (link : Link World) : State → Option (Handler World)
  | .succeeded _ => link.success?
  | .failed _ => link.failure?
  | .stopped _ => none

section Calls

variable {control : Nat} {s : Session World} {state : State} {m : Machine World}

/-- Without a request to stop, a checkpoint leaves the state as it is. -/
theorem checkpoint_of_not_isStopped (h : s.isStopped control = false) (state : State) :
    checkpoint control s state = state := by
  cases state with
  | stopped settled => rfl
  | succeeded _ | failed _ => simp only [checkpoint, h, Bool.false_eq_true, if_false]

/-- Calls that were noted stay noted. -/
theorem Noted.calls_ne_nil {Result : Type} {seen : List (Call World)}
    {plain : Session World × Result} {watched : Session (Watched World) × Result}
    (h : Noted seen plain watched) (hseen : seen ≠ []) : watched.1.world.calls ≠ [] := by
  obtain ⟨new, rfl⟩ := h
  exact List.append_ne_nil_of_left_ne_nil hseen new

/-- A machine has the session in which the phase ended, with an error or without. -/
theorem Machine.session_after (m : Machine World) (r : Session World × Except Error State) :
    (m.after r).1.session = r.1 := by
  obtain ⟨s', r⟩ := r
  cases r <;> rfl

/-- The calls of one link are those noted where it is passed. -/
theorem Machine.calls_advance (m : Machine World) (link : Link World) :
    m.calls [.advance link] =
      (advance m.control link.watched m.state (m.session.noting [])).1.world.calls :=
  congrArg (fun s => s.world.calls) ((m.noting []).session_after _)

/-- A link that has a handler for the state calls it, unless the chain was stopped. -/
theorem calls_advance_ne_nil {h : Handler World} {link : Link World}
    (hs : s.isStopped control = false) (hhandler : link.handler? state = some h) :
    (advance control link.watched state (s.noting [])).1.world.calls ≠ [] := by
  have hs' : (s.noting []).isStopped control = false := hs
  obtain ⟨success?, failure?, label⟩ := link
  rw [advance, checkpoint_of_not_isStopped hs']
  cases state with
  | stopped settled => cases hhandler
  | succeeded d =>
    obtain rfl : success? = some h := hhandler
    -- The first phase notes the call of the handler, and the second can but note one more.
    have hfirst : successPhase (Link.watched ⟨some h, failure?, label⟩) (.succeeded d)
        (s.noting []) = _ := settle_watched 0 h (s.setPrev d) []
    dsimp only
    rw [bothPhases, hfirst]
    cases settle h (s.setPrev d) with
    | mk s' r =>
      cases r with
      | error e => exact List.cons_ne_nil _ _
      | ok state' =>
        exact (noted_failurePhase ⟨some h, failure?, label⟩ (checkpoint control s' state') s'
          _).calls_ne_nil (List.cons_ne_nil _ _)
  | failed e =>
    obtain rfl : failure? = some h := hhandler
    have hfirst : successPhase (Link.watched ⟨success?, some h, label⟩) (.failed e) (s.noting []) =
        (s.noting [], .ok (.failed e)) := rfl
    have hsecond : failurePhase (Link.watched ⟨success?, some h, label⟩) (.failed e)
        (s.noting []) = _ := settle_watched _ h (s.setPrev (.error e)) []
    dsimp only
    rw [bothPhases, hfirst]
    dsimp only
    rw [checkpoint_of_not_isStopped hs', hsecond]
    exact List.cons_ne_nil _ _

/-- A link that has no handler for the state calls none. -/
theorem calls_advance_eq_nil {link : Link World} (hs : s.isStopped control = false)
    (hhandler : link.handler? state = none) :
    (advance control link.watched state (s.noting [])).1.world.calls = [] := by
  have hs' : (s.noting []).isStopped control = false := hs
  obtain ⟨success?, failure?, label⟩ := link
  rw [advance, checkpoint_of_not_isStopped hs']
  cases state with
  | stopped settled => rfl
  | succeeded d =>
    obtain rfl : success? = none := hhandler
    have hfirst : successPhase (Link.watched ⟨none, failure?, label⟩) (.succeeded d)
        (s.noting []) = (s.noting [], .ok (.succeeded d)) := rfl
    dsimp only
    rw [bothPhases, hfirst]
    dsimp only
    rw [checkpoint_of_not_isStopped hs']
    rfl
  | failed e =>
    obtain rfl : failure? = none := hhandler
    have hfirst : successPhase (Link.watched ⟨success?, none, label⟩) (.failed e) (s.noting []) =
        (s.noting [], .ok (.failed e)) := rfl
    dsimp only
    rw [bothPhases, hfirst]
    dsimp only
    rw [checkpoint_of_not_isStopped hs']
    rfl

/-- No handler of a link is called iff it has none for the state, or the chain was stopped. -/
theorem Machine.calls_advance_eq_nil_iff (m : Machine World) (link : Link World) :
    m.calls [.advance link] = [] ↔ m.isStopped = true ∨ link.handler? m.state = none := by
  rw [calls_advance]
  cases hs : m.isStopped with
  | true =>
    obtain ⟨settled, hsettled⟩ := exists_isSettled hs
    have hwatched : checkpoint m.control (m.session.noting []) m.state = .stopped settled :=
      hsettled
    rw [advance_of_checkpoint hwatched]
    exact ⟨fun _ => .inl rfl, fun _ => rfl⟩
  | false =>
    cases hhandler : link.handler? m.state with
    | none => simpa using calls_advance_eq_nil hs hhandler
    | some h => simpa using calls_advance_ne_nil hs hhandler

end Calls

/-! ## The law of stopped chains -/

/-- What stopping means for a machine, however it is driven from there on. -/
structure AbsorbingLaw (m : Machine World) : Prop where
  /-- No state is settled twice, unless the machine begins with such a state. -/
  flat : ¬ m.state.IsNested → ∀ commands : List (Command World),
    (∀ command ∈ commands, command.Drives) → ¬ (m.run commands).1.state.IsNested
  /-- Once the state is stopped it stays as it is, whatever the control was asked: no handler is
  called, nothing is written into the context, and no command ends with an error. -/
  absorbing : ∀ (earlier later : List (Command World)) (settled : State),
    (∀ command ∈ later, command.Drives) → (m.run earlier).1.state = .stopped settled →
    (m.run (earlier ++ later)).1.state = .stopped settled ∧
      (m.run earlier).1.session.Kept (m.run (earlier ++ later)).1.session ∧
      (m.run (earlier ++ later)).1.session.prev = (m.run earlier).1.session.prev ∧
      (m.run (earlier ++ later)).2 = (m.run earlier).2 ∧
      m.calls (earlier ++ later) = m.calls earlier
  /-- Once the control was asked to stop, no handler is called. -/
  silent : ∀ earlier later : List (Command World), (∀ command ∈ later, command.Drives) →
    (m.run earlier).1.isStopped = true →
    (m.run (earlier ++ later)).1.isStopped = true ∧ m.calls (earlier ++ later) = m.calls earlier
  /-- Nothing else keeps a link from calling the handler that it has for the state. -/
  called : ∀ link : Link World,
    m.calls [.advance link] = [] ↔ m.isStopped = true ∨ link.handler? m.state = none
  /-- A checkpoint changes the outcome of no state. -/
  outcome_eq : ∀ (control : Nat) (s : Session World) (state : State),
    unwrap (checkpoint control s state) = unwrap state
  /-- Noting the calls changes nothing else. -/
  noted : ∀ commands : List (Command World),
    (m.noting []).run (commands.map Command.watched) =
      ((m.run commands).1.noting (m.calls commands), (m.run commands).2)

section Law

variable {m : Machine World}

/-- A checkpoint changes the outcome of no state. -/
theorem unwrap_checkpoint (control : Nat) (s : Session World) (state : State) :
    unwrap (checkpoint control s state) = unwrap state := by
  cases state with
  | stopped settled => rfl
  | succeeded _ | failed _ =>
    simp only [checkpoint]
    split <;> rfl

/-- A command that drives the chain drives it when calls are noted. -/
theorem Command.Drives.watched {command : Command World} (h : command.Drives) :
    command.watched.Drives := by
  cases h with
  | advance link => exact .advance _
  | checkpoint => exact .checkpoint
  | stop => exact .stop

/-- No handler of a machine at rest is called. -/
theorem Machine.calls_of_isSettled {earlier later : List (Command World)} {settled : State}
    (hdrive : ∀ command ∈ later, command.Drives) (h : (m.run earlier).1.IsSettled settled) :
    m.calls (earlier ++ later) = m.calls earlier := by
  have hdriveWatched : ∀ command ∈ later.map Command.watched, command.Drives := by
    rw [List.forall_mem_map]
    exact fun command hmem => (hdrive command hmem).watched
  have hsettled : ((m.run earlier).1.noting (m.calls earlier)).IsSettled settled := h
  -- The watched machine rests as well, and so does the world in which the calls are noted.
  have hrests := (run_of_isSettled hdriveWatched hsettled).2
  rw [calls, List.map_append, run_append, run_watched, hrests.kept.world_eq]
  rfl

/-- **Stopped chains stay stopped**: whatever drives the chain on, a stopped state is neither
changed nor settled again, and no handler is called behind it or behind a request to stop. -/
theorem Machine.run_absorbing (m : Machine World) : AbsorbingLaw m where
  flat hflat commands hdrive := not_isNested_run hdrive hflat
  absorbing earlier later settled hdrive hstate := by
    have hsettled : (m.run earlier).1.IsSettled settled := isSettled_of_stopped hstate
    obtain ⟨hnil, hrests⟩ := run_of_isSettled hdrive hsettled
    rw [calls_of_isSettled hdrive hsettled, run_append, hnil, List.append_nil]
    refine ⟨hrests.state_of_stopped hstate, hrests.kept, ?_, rfl, rfl⟩
    rw [Session.prev, hrests.kept.record_eq]
    rfl
  silent earlier later hdrive hstopped := by
    obtain ⟨settled, hsettled⟩ := exists_isSettled hstopped
    obtain ⟨-, hrests⟩ := run_of_isSettled hdrive hsettled
    refine ⟨?_, calls_of_isSettled hdrive hsettled⟩
    rw [run_append, isStopped, hrests.control_eq]
    exact hrests.kept.isStopped _ hstopped
  called := m.calls_advance_eq_nil_iff
  outcome_eq := unwrap_checkpoint
  noted := m.run_watched

end Law

end HandlerPipeline.Chain
