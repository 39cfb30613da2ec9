import HandlerPipeline.BuildLog.Request
import Mathlib.Data.List.Basic
import Mathlib.Data.List.Induction

/-!
# The sinks of the build log

Whatever the build log is asked for, and however the environment and the disk change in between, it
has no sinks, or the console and at most one file. The file takes every line. The console is silent
if it was silenced after it was last made heard and after sinks were last attached
(`BuildLog.Silenced`); otherwise it shows all but debugging lines. A request that is made a second
time changes nothing, even where the environment has changed in between
(`BuildLog.Request.perform_perform`).

One visit is followed by `BuildLog.visited_cases`, and what it keeps by `BuildLog.Kept.visited`. The
theorem `BuildLog.after_sinks` says this of every history.
-/

namespace HandlerPipeline

namespace BuildLog

variable {log start : BuildLog} {threshold : Nat} {history : List Visit} {v : Visit}

/-! ## The shape of sinks -/

/-- The sinks are none, or a file that takes every line, where there is one, and the console with a
threshold. -/
def Shape (threshold : Nat) (sinks : List Sink) : Prop :=
  sinks = [] ∨ ∃ file? : Option (List String),
    sinks = file?.toList.map Sink.file ++ [⟨.console, threshold⟩]

/-- The sinks that write to the console. -/
def consoles (log : BuildLog) : List Sink := log.sinks.filter (·.target = .console)

/-- The sinks that write to files. -/
def files (log : BuildLog) : List Sink := log.sinks.filter (·.target ≠ .console)

namespace Shape

/-- Sinks of this shape are one console and at most one file, or none. -/
theorem sinks_cases (h : Shape threshold log.sinks) :
    log.sinks = [] ∨ log.consoles = [⟨.console, threshold⟩] ∧ log.files.length ≤ 1 := by
  refine h.imp_right ?_
  rintro ⟨file?, hsinks⟩
  rw [consoles, files, hsinks]
  cases file? <;> simp [Sink.file]

/-- The console of sinks of this shape has the threshold. -/
theorem threshold_eq (h : Shape threshold log.sinks) :
    ∀ sink ∈ log.consoles, sink.threshold = threshold := by
  intro sink hsink
  rcases h.sinks_cases with hnone | ⟨hconsoles, -⟩
  · rw [consoles, hnone] at hsink
    cases hsink
  · rw [hconsoles, List.mem_singleton] at hsink
    rw [hsink]

/-- The files of sinks of this shape take every line. -/
theorem threshold_eq_debug (h : Shape threshold log.sinks) :
    ∀ sink ∈ log.files, sink.threshold = Log.Level.debug.number := by
  rcases h with hsinks | ⟨file?, hsinks⟩ <;> rw [files, hsinks]
  · simp
  · cases file? <;> simp [Sink.file]

/-- Setting the threshold of the console keeps the shape. -/
theorem setConsole (h : Shape threshold log.sinks) (next : Nat) :
    Shape next (log.setConsole next).sinks := by
  rw [BuildLog.setConsole]
  rcases h with hsinks | ⟨file?, hsinks⟩
  · exact .inl (by rw [hsinks, List.map_nil])
  · refine .inr ⟨file?, ?_⟩
    dsimp only
    rw [hsinks]
    cases file? <;> rfl

/-- A line is seen on the console, if there is one, unless its level is below the threshold. -/
theorem seen_write (h : Shape threshold log.sinks) (hsinks : log.sinks ≠ []) (time : String)
    (level : Log.Level) (message : String) :
    (log.write time level message).2 =
      if level.number < threshold then []
      else Text.writtenLines (lineText time level message) := by
  obtain ⟨file?, heq⟩ := h.resolve_left hsinks
  have hfile : ¬ level.number < Log.Level.debug.number := by cases level <;> decide
  rw [write, heq]
  cases file? with
  | none => by_cases hlevel : level.number < threshold <;> simp [writeTo, hlevel]
  | some path =>
    by_cases hlevel : level.number < threshold <;> simp [writeTo, Sink.file, hfile, hlevel]

end Shape

/-! ## Requests -/

/-- Asking for a log without sinks attaches some. Its console shows all but debugging lines. -/
theorem shape_get (h : log.sinks = []) :
    Shape Log.Level.info.number log.get.sinks ∧ log.get.sinks ≠ [] := by
  rw [get, h]
  dsimp only
  split
  · next path disk _ => exact ⟨.inr ⟨some path, rfl⟩, by simp⟩
  · exact ⟨.inr ⟨none, rfl⟩, by simp⟩

/-- Asking for a log that has sinks changes nothing. -/
theorem get_of_sinks_ne_nil (h : log.sinks ≠ []) : log.get = log := by
  rw [get]
  split
  · rfl
  · next hnil => exact absurd hnil h

/-- A log that was asked for has sinks. -/
theorem sinks_get_ne_nil (log : BuildLog) : log.get.sinks ≠ [] := by
  by_cases h : log.sinks = []
  · exact (shape_get h).2
  · rwa [get_of_sinks_ne_nil h]

/-- Asking for a log twice is asking for it once, whatever has changed around it. -/
theorem get_within_get (environment : Environment) (disk : Disk) (log : BuildLog) :
    (log.get.within environment disk).get = log.get.within environment disk :=
  get_of_sinks_ne_nil (sinks_get_ne_nil log)

/-- Setting the threshold of the console twice is setting it once. -/
theorem setConsole_setConsole (threshold : Nat) (log : BuildLog) :
    (log.setConsole threshold).setConsole threshold = log.setConsole threshold := by
  have hsink : ∀ sink : Sink, (sink.withConsoleAt threshold).withConsoleAt threshold =
      sink.withConsoleAt threshold := by
    rintro ⟨_ | path, _⟩ <;> rfl
  rw [setConsole, setConsole]
  dsimp only
  rw [List.map_map]
  exact congrArg _ (List.map_congr_left fun sink _ => hsink sink)

/-- **A request that is made a second time changes nothing**, whatever has changed around the
log. -/
theorem Request.perform_perform {r : Request}
    (h : r ∈ [get, reset, suppress, restore]) (environment : Environment) (disk : Disk)
    (log : BuildLog) :
    r.perform ((r.perform log).within environment disk) =
      (r.perform log).within environment disk := by
  have hset : ∀ threshold, (((log.get.setConsole threshold).within environment disk).get).setConsole
      threshold = (log.get.setConsole threshold).within environment disk := by
    intro threshold
    have hsinks : ((log.get.setConsole threshold).within environment disk).sinks ≠ [] := by
      simpa [BuildLog.setConsole, within] using sinks_get_ne_nil log
    rw [get_of_sinks_ne_nil hsinks]
    exact congrArg (within environment disk) (setConsole_setConsole threshold log.get)
  simp only [List.mem_cons, List.not_mem_nil, or_false] at h
  rcases h with rfl | rfl | rfl | rfl
  · exact get_within_get environment disk log
  · rfl
  · exact hset _
  · exact hset _

/-- Writing lines leaves the sinks as they are. -/
theorem sinks_writeAll (time : String) (lines : List Log.Line) (log : BuildLog) :
    (log.writeAll time lines).1.sinks = log.sinks := by
  have hwrite : ∀ (log : BuildLog) level message,
      (log.write time level message).1.sinks = log.sinks := by
    intro log level message
    rw [write]
    split
    · rfl
    · rfl
  induction lines generalizing log with
  | nil => rfl
  | cons line lines ih => exact (ih _).trans (hwrite log _ _)

/-- Opening a pass attaches sinks as asking for the log does, or leaves them as they are. -/
theorem sinks_openPass (time : String) (settings : Settings) (given? : Option Config.Given)
    (probe : Probe) (log : BuildLog) :
    (log.openPass time settings given? probe).log.sinks = log.get.sinks ∨
      (log.openPass time settings given? probe).log.sinks = log.sinks := by
  rw [openPass]
  dsimp only
  split
  · left
    split
    · exact sinks_writeAll time _ log.get
    · rfl
  · exact .inr rfl

/-! ## Visits -/

/-- What a visit does to the sinks of a log. -/
theorem visited_cases (log : BuildLog) (v : Visit) :
    (v.request = .reset ∧ (log.visited v).sinks = []) ∨
    (v.request = .suppress ∧
      log.visited v = (log.within v.environment v.disk).get.setConsole Sink.silent) ∨
    (v.request = .restore ∧
      log.visited v = (log.within v.environment v.disk).get.setConsole Log.Level.info.number) ∨
    ((v.request ≠ .suppress ∧ v.request ≠ .restore) ∧
      ((log.visited v).sinks = (log.within v.environment v.disk).get.sinks ∨
        (log.visited v).sinks = log.sinks)) := by
  obtain ⟨environment, disk, request⟩ := v
  cases request with
  | reset => exact .inl ⟨rfl, rfl⟩
  | suppress => exact .inr (.inl ⟨rfl, rfl⟩)
  | restore => exact .inr (.inr (.inl ⟨rfl, rfl⟩))
  | get => exact .inr (.inr (.inr ⟨⟨nofun, nofun⟩, .inl rfl⟩))
  | openPass time settings given? probe =>
    exact .inr (.inr (.inr ⟨⟨nofun, nofun⟩,
      sinks_openPass time settings given? probe (log.within environment disk)⟩))

/-- The visit attaches sinks: the log had none. -/
def Attaches (log : BuildLog) (v : Visit) : Prop := log.sinks = [] ∧ (log.visited v).sinks ≠ []

/-- The console was silenced after it was last made heard and after sinks were last attached. -/
def Silenced (start : BuildLog) (history : List Visit) : Prop :=
  ∃ before v later, history = before ++ v :: later ∧ v.request = .suppress ∧
    (∀ w ∈ later, w.request ≠ .restore) ∧
    ∀ between w rest, later = between ++ w :: rest →
      ¬ Attaches (start.after (before ++ v :: between)) w

/-- One visit more: it silences the console, or it leaves it silent. -/
theorem silenced_concat : Silenced start (history ++ [v]) ↔ v.request = .suppress ∨
    Silenced start history ∧ v.request ≠ .restore ∧ ¬ Attaches (start.after history) v := by
  constructor
  · rintro ⟨before, w, later, heq, hw, hheard, hattached⟩
    rcases later.eq_nil_or_concat' with rfl | ⟨later, last, rfl⟩
    · obtain ⟨-, hlast⟩ := List.append_inj' heq rfl
      obtain rfl := List.singleton_inj.1 hlast
      exact .inl hw
    · rw [← List.cons_append, ← List.append_assoc] at heq
      obtain ⟨rfl, hlast⟩ := List.append_inj' heq rfl
      obtain rfl := List.singleton_inj.1 hlast
      rw [List.forall_mem_append, List.forall_mem_singleton] at hheard
      refine .inr ⟨⟨before, w, later, rfl, hw, hheard.1, fun between u rest hlater => ?_⟩,
        hheard.2, hattached later v [] rfl⟩
      refine hattached between u (rest ++ [v]) ?_
      rw [hlater, List.append_assoc, List.cons_append]
  · rintro (hv | ⟨⟨before, w, later, rfl, hw, hheard, hattached⟩, hlast, hnew⟩)
    · exact ⟨history, v, [], rfl, hv, by simp, by simp⟩
    · refine ⟨before, w, later ++ [v], by simp, hw, ?_, fun between u rest hlater => ?_⟩
      · rw [List.forall_mem_append, List.forall_mem_singleton]
        exact ⟨hheard, hlast⟩
      · rcases rest.eq_nil_or_concat' with rfl | ⟨rest, last, rfl⟩
        · obtain ⟨rfl, hu⟩ := List.append_inj' hlater rfl
          rwa [← List.singleton_inj.1 hu]
        · rw [← List.cons_append, ← List.append_assoc] at hlater
          exact hattached between u rest (List.append_inj' hlater rfl).1

/-- What every visit keeps: the sinks have their shape, and the console, where there is one, is as
the visits up to now have left it. -/
def Kept (silenced : Prop) (log : BuildLog) : Prop :=
  ∃ threshold, Shape threshold log.sinks ∧ (log.sinks ≠ [] →
    (silenced → threshold = Sink.silent) ∧ (¬ silenced → threshold = Log.Level.info.number))

/-- A log that was asked for has sinks of the shape. -/
theorem Kept.exists_shape_get {silenced : Prop} (h : Kept silenced log) (environment : Environment)
    (disk : Disk) : ∃ threshold, Shape threshold (log.within environment disk).get.sinks := by
  by_cases hsinks : (log.within environment disk).sinks = []
  · exact ⟨_, (shape_get hsinks).1⟩
  · rw [get_of_sinks_ne_nil hsinks]
    exact h.imp fun _ hshape => hshape.1

/-- **A visit keeps it.** -/
theorem Kept.visited {silenced : Prop} (h : Kept silenced log) (v : Visit) :
    Kept (v.request = .suppress ∨ silenced ∧ v.request ≠ .restore ∧ ¬ Attaches log v)
      (log.visited v) := by
  obtain ⟨asked, hasked⟩ := h.exists_shape_get v.environment v.disk
  rcases visited_cases log v with ⟨-, hnone⟩ | ⟨hv, heq⟩ | ⟨hv, heq⟩ | ⟨hv, hsinks⟩
  · exact ⟨0, .inl hnone, fun hne => absurd hnone hne⟩
  · refine ⟨_, heq ▸ hasked.setConsole Sink.silent, fun _ => ⟨fun _ => rfl, fun hnot => ?_⟩⟩
    exact absurd (.inl hv) hnot
  · refine ⟨_, heq ▸ hasked.setConsole Log.Level.info.number, fun _ => ⟨?_, fun _ => rfl⟩⟩
    rintro (hsuppress | ⟨-, hrestore, -⟩)
    · rw [hv] at hsuppress
      cases hsuppress
    · exact absurd hv hrestore
  · by_cases hattaches : Attaches log v
    · have hnew : (log.visited v).sinks = (log.within v.environment v.disk).get.sinks :=
        hsinks.resolve_right fun hold => hattaches.2 (hold.trans hattaches.1)
      have hnone : (log.within v.environment v.disk).sinks = [] := hattaches.1
      refine ⟨_, hnew ▸ (shape_get hnone).1, fun _ => ⟨?_, fun _ => rfl⟩⟩
      rintro (hsuppress | ⟨-, -, hnot⟩)
      · exact absurd hsuppress hv.1
      · exact absurd hattaches hnot
    · -- Where no sinks were attached, those of the log are still there.
      have hold : (log.visited v).sinks = log.sinks := by
        rcases hsinks with hnew | hold
        · by_cases hnone : (log.within v.environment v.disk).sinks = []
          · exact (Decidable.not_not.1 fun hne => hattaches ⟨hnone, hne⟩).trans hnone.symm
          · rw [hnew, get_of_sinks_ne_nil hnone]
            rfl
        · exact hold
      have hsame : (v.request = .suppress ∨ silenced ∧ v.request ≠ .restore ∧ ¬ Attaches log v) ↔
          silenced := by simp [hv.1, hv.2, hattaches]
      rw [hsame, Kept, hold]
      exact h

/-- **Every history keeps it**, from a log without sinks on. -/
theorem kept_after (h : start.sinks = []) (history : List Visit) :
    Kept (Silenced start history) (start.after history) := by
  induction history using List.reverseRecOn with
  | nil => exact ⟨0, .inl h, fun hne => absurd h hne⟩
  | append_singleton history v ih =>
    have hafter : start.after (history ++ [v]) = (start.after history).visited v := by
      rw [after, List.foldl_append]
      rfl
    rw [silenced_concat, hafter]
    exact ih.visited v

/-! ## The law -/

/-- What is said of the log that a history leaves behind. -/
structure SinksLaw (start : BuildLog) (history : List Visit) : Prop where
  /-- It has no sinks, or one console and at most one file. -/
  sinks : (start.after history).sinks = [] ∨
    (∃ console, (start.after history).consoles = [console]) ∧
      (start.after history).files.length ≤ 1
  /-- A file takes every line. -/
  files : ∀ sink ∈ (start.after history).files, sink.threshold = Log.Level.debug.number
  /-- The console is silent where it has been silenced, and only there. -/
  silenced : Silenced start history →
    ∀ sink ∈ (start.after history).consoles, sink.threshold = Sink.silent
  heard : ¬ Silenced start history →
    ∀ sink ∈ (start.after history).consoles, sink.threshold = Log.Level.info.number
  /-- A silent console shows nothing, and another one shows all but debugging lines. -/
  seen : (start.after history).sinks ≠ [] → ∀ time level message,
    (Silenced start history → ((start.after history).write time level message).2 = []) ∧
    (¬ Silenced start history → ((start.after history).write time level message).2 =
      if level.number < Log.Level.info.number then []
      else Text.writtenLines (lineText time level message))
  /-- What is asked for a second time changes nothing, whatever has changed around the log. -/
  again : ∀ r ∈ [Request.get, .reset, .suppress, .restore],
    ∀ environment disk environment' disk',
      start.after (history ++ [⟨environment, disk, r⟩, ⟨environment', disk', r⟩]) =
        (start.after (history ++ [⟨environment, disk, r⟩])).within environment' disk'

/-- **The sinks of the build log stay in order**: from a log without sinks on, whatever it is asked
for and however the environment and the disk change in between. -/
theorem after_sinks (h : start.sinks = []) (history : List Visit) : SinksLaw start history := by
  obtain ⟨threshold, hshape, hthreshold⟩ := kept_after h history
  have hconsole : (start.after history).consoles ≠ [] → (start.after history).sinks ≠ [] := by
    intro hne hnil
    rw [consoles, hnil] at hne
    exact hne rfl
  have hsilent : ∀ level : Log.Level, level.number < Sink.silent := by
    intro level
    cases level <;> decide
  refine ⟨?_, hshape.threshold_eq_debug, fun hsilenced sink hsink => ?_,
    fun hheard sink hsink => ?_, fun hsinks time level message => ⟨fun hsilenced => ?_,
    fun hheard => ?_⟩, fun r hr environment disk environment' disk' => ?_⟩
  · exact hshape.sinks_cases.imp_right fun hcases => ⟨⟨_, hcases.1⟩, hcases.2⟩
  · rw [hshape.threshold_eq sink hsink]
    exact (hthreshold (hconsole (List.ne_nil_of_mem hsink))).1 hsilenced
  · rw [hshape.threshold_eq sink hsink]
    exact (hthreshold (hconsole (List.ne_nil_of_mem hsink))).2 hheard
  · rw [hshape.seen_write hsinks, (hthreshold hsinks).1 hsilenced, if_pos (hsilent level)]
  · rw [hshape.seen_write hsinks, (hthreshold hsinks).2 hheard]
  · rw [after, after, List.foldl_append, List.foldl_append]
    exact Request.perform_perform hr environment' disk' _

/-- The console is silenced before sinks are detached and again after a pass has attached others; in
between it is made heard, in an environment that turns the file off. -/
def silencedTwice : List Visit :=
  let noFile : Environment := [(LogDirectory.fileVariable, "")]
  [⟨noFile, .empty, .suppress⟩, ⟨noFile, .empty, .reset⟩,
    ⟨[], .empty, .openPass "" .default none ⟨fun _ => .ok none, fun _ => []⟩⟩,
    ⟨noFile, .empty, .restore⟩, ⟨noFile, .empty, .suppress⟩]

/-- Such a history leaves a silent console behind, and the file that the pass has attached. -/
theorem after_sinks_silencedTwice :
    untouched.sinks = [] ∧ SinksLaw untouched silencedTwice ∧
      Silenced untouched silencedTwice ∧
      (untouched.after silencedTwice).sinks =
        [.file [".middleware_chain", "build.log"], ⟨.console, Sink.silent⟩] := by
  have hlast : Silenced untouched silencedTwice :=
    ⟨silencedTwice.take 4, _, [], rfl, rfl, by simp, by simp⟩
  exact ⟨rfl, after_sinks rfl silencedTwice, hlast, by decide +kernel⟩

end BuildLog

end HandlerPipeline
