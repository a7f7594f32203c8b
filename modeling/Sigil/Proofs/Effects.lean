/-
# The order of effects

Functions may mark each of their calls in the journal of the host.  The marks of an evaluation that
succeeds are those of all calls of its text, from left to right and from the inside out; if it
fails, the calls stop with the one that failed, or between two of them.

The texts of a call are evaluated one after another: the strings of the local parameters, the texts
of the global values that are expanded, and the strings of the value.  A failure that is located at
a text arises after the calls of all texts before it, and before those of all texts after it.
-/
import Sigil.Proofs.Location
import Sigil.Proofs.Reentry

namespace Sigil

open Eval

/-- A function that marks each of its calls in the journal, with its name and whether the call
succeeds. -/
def RegistryEntry.MarksCalls (mark : String → Bool → Value) (entry : RegistryEntry Callable) :
    Prop :=
  ∃ run, entry.function = .function run ∧ ∀ args params h r h', (run args params).run h = (r, h') →
    h'.journal = h.journal ++ [mark entry.name r.isOk]

/-- The marks of calls of which the last one may have failed. -/
inductive Marked (mark : String → Bool → Value) : List String → List Value → Prop
  /-- All calls have succeeded. -/
  | succeeded (made : List String) : Marked mark made (made.map (mark · true))
  /-- The last call has failed. -/
  | failed (made : List String) (name : String) :
      Marked mark (made ++ [name]) (made.map (mark · true) ++ [mark name false])

/-- The calls that are made until an evaluation of texts stops with a failure. -/
inductive StopsIn (functions : Functions) (texts : List String) (e : Failure) : List String → Prop
  /-- The failure arises in the text at which it is located. -/
  | inside {before after made : List String} {text : String} : texts = before ++ text :: after →
      e.source = .text text → made <+: textCalls functions text →
        StopsIn functions texts e (textsCalls functions before ++ made)
  /-- The failure arises between two texts. -/
  | outside {before after : List String} : texts = before ++ after → e.site? = none →
      StopsIn functions texts e (textsCalls functions before)

lemma Marked.append {mark : String → Bool → Value} {made : List String} {log : List Value}
    (h : Marked mark made log) (calls : List String) :
    Marked mark (calls ++ made) (calls.map (mark · true) ++ log) := by
  cases h with
  | succeeded => simpa using Marked.succeeded (calls ++ made)
  | failed made name => simpa using Marked.failed (calls ++ made) name

section

variable {functions : Functions} {texts more made : List String} {e : Failure}

/-- The calls that are made come first among those of the texts. -/
lemma StopsIn.made_prefix (h : StopsIn functions texts e made) :
    made <+: textsCalls functions texts := by
  cases h with
  | @inside before after made text htexts _ hmade =>
      rw [htexts, textsCalls_append]
      refine (List.prefix_append_right_inj _).mpr (hmade.trans ?_)
      exact List.prefix_append _ (textsCalls functions after)
  | outside htexts _ =>
      rw [htexts, textsCalls_append]
      exact List.prefix_append _ _

lemma StopsIn.append_right (h : StopsIn functions texts e made) (more : List String) :
    StopsIn functions (texts ++ more) e made := by
  cases h with
  | inside htexts hsource hmade =>
      exact .inside (by rw [htexts, List.append_assoc]; rfl) hsource hmade
  | outside htexts hsite => exact .outside (by rw [htexts, List.append_assoc]) hsite

lemma StopsIn.append_left (h : StopsIn functions more e made) (texts : List String) :
    StopsIn functions (texts ++ more) e (textsCalls functions texts ++ made) := by
  cases h with
  | inside htexts hsource hmade =>
      rw [← List.append_assoc, ← textsCalls_append]
      exact .inside (by rw [htexts, List.append_assoc]) hsource hmade
  | outside htexts hsite =>
      rw [← textsCalls_append]
      exact .outside (by rw [htexts, List.append_assoc]) hsite

end

namespace Eval

/-- The step marks these calls if it succeeds.  If it fails, it marks calls at which this failure
may stop it. -/
def Logs (mark : String → Bool → Value) (calls : List String)
    (Stops : Failure → List String → Prop) {α : Type} (x : Eval α) : Prop :=
  ∀ s r t, x.run s = some (r, t) → match r with
    | .ok _ => t.host.journal = s.host.journal ++ calls.map (mark · true)
    | .error e => ∃ made log, Stops e made ∧ Marked mark made log ∧
        t.host.journal = s.host.journal ++ log

/-- An evaluation that calls these functions stops at a failure that is not located. -/
def StopsUnplaced (calls : List String) (e : Failure) (made : List String) : Prop :=
  e.Fresh ∧ made <+: calls

section

variable {mark : String → Bool → Value} {calls more : List String}
  {S S' T : Failure → List String → Prop} {α β : Type} {x : Eval α} {f : α → Eval β}

lemma Logs.bind (hx : Logs mark calls S x) (hf : ∀ a, Logs mark more S' (f a))
    (hfirst : ∀ e made, S e made → T e made)
    (hsecond : ∀ e made, S' e made → T e (calls ++ made)) :
    Logs mark (calls ++ more) T (x >>= f) := by
  intro s r t h
  rw [run_bind, Option.bind_eq_some_iff] at h
  obtain ⟨⟨e | a, u⟩, hrun, hrest⟩ := h
  · cases hrest
    obtain ⟨made, log, hmade, hlog, ht⟩ := hx s _ _ hrun
    exact ⟨made, log, hfirst e made hmade, hlog, ht⟩
  · have hu : u.host.journal = s.host.journal ++ calls.map (mark · true) := hx s _ _ hrun
    have ht := hf a u r t hrest
    cases r with
    | ok b =>
        dsimp only at ht ⊢
        rw [ht, hu, List.map_append, List.append_assoc]
    | error e =>
        obtain ⟨made, log, hmade, hlog, ht⟩ := ht
        refine ⟨calls ++ made, _, hsecond e made hmade, hlog.append calls, ?_⟩
        rw [ht, hu, List.append_assoc]

/-- A step that always succeeds and leaves the journal as it is. -/
lemma logs_of_silent (h : ∀ s, ∃ a t, x.run s = some (.ok a, t) ∧ t.host.journal = s.host.journal) :
    Logs mark [] S x := by
  intro s r t hrun
  obtain ⟨a, t', hrun', ht'⟩ := h s
  cases hrun.symm.trans hrun'
  simpa using ht'

lemma logs_fail {e : Failure} (h : S e []) :
    Logs mark calls S (ofExcept (.error e) : Eval α) := by
  intro s r t hrun
  rw [run_ofExcept] at hrun
  cases hrun
  exact ⟨[], [], h, .succeeded [], (List.append_nil _).symm⟩

lemma Logs.within (h : Logs mark calls S x) (frame : Frame) :
    Logs mark calls S (within frame x) := by
  intro s r t hrun
  obtain ⟨⟨r', u⟩, hx, heq⟩ := Option.map_eq_some_iff.mp hrun
  cases heq
  exact h ⟨s.host, frame :: s.frames⟩ r u hx

/-- Marking calls is closed under the steps of an evaluation. -/
lemma Logs.stepClosed :
    StepClosed fun calls x _ => Logs mark calls (StopsUnplaced calls) x where
  pure a := logs_of_silent fun s => ⟨a, s, rfl, rfl⟩
  fail _ _ he := logs_fail ⟨he, List.nil_prefix⟩
  bind hx hf := hx.bind hf (fun _ _ h => ⟨h.1, h.2.trans (List.prefix_append _ _)⟩)
    fun _ _ h => ⟨h.1, (List.prefix_append_right_inj _).mpr h.2⟩
  getenv _ := logs_of_silent fun s => ⟨_, s, rfl, rfl⟩
  record _ := logs_of_silent fun _ => ⟨(), _, rfl, rfl⟩
  within frame hx := hx.within frame

end

end Eval

lemma Host.journal_diagnose (h : Host) (parts : List String) :
    (h.diagnose parts).journal = h.journal := by
  unfold Host.diagnose
  split <;> rfl

/-- The calls of a function that marks them. -/
lemma invoke_logs {mark : String → Bool → Value} (sc : Scope) (name : String)
    {entry : RegistryEntry Callable} (hentry : entry.MarksCalls mark) (args : List Value) :
    Logs mark [entry.name] (StopsUnplaced [entry.name]) (sc.invoke name entry args) := by
  obtain ⟨run, hrun, hmarks⟩ := hentry
  intro s r t h
  rw [run_invoke, hrun] at h
  obtain ⟨⟨cause | v, host⟩, hcall, heq⟩ := Option.map_eq_some_iff.mp h
  · have hmark := hmarks _ _ _ _ _ (Option.some.inj hcall)
    rw [Host.journal_diagnose] at hmark
    cases heq
    exact ⟨[entry.name], _, ⟨fresh_callFailure _ _ _ _, List.prefix_rfl⟩,
      Marked.failed [] entry.name, hmark⟩
  · have hmark := hmarks _ _ _ _ _ (Option.some.inj hcall)
    rw [Host.journal_diagnose] at hmark
    cases heq
    exact hmark

/-- Marking the calls of texts is closed under the steps of a run over texts that call functions
that mark their calls. -/
lemma Eval.Logs.runClosed (mark : String → Bool → Value) (run : Run) :
    RunClosed (fun calls x _ => Logs mark calls (StopsUnplaced calls) x)
      (fun texts x _ => Logs mark (textsCalls run.functions texts) (StopsIn run.functions texts) x)
      (Names (·.MarksCalls mark) run.functions) run run where
  pure a := logs_of_silent fun s => ⟨a, s, rfl, rfl⟩
  fail texts e he := logs_fail (StopsIn.outside (List.nil_append texts).symm he.1)
  bind {α β texts more x y f g} hx hf := by
    rw [textsCalls_append]
    exact hx.bind hf (fun _ _ h => h.append_right more) fun _ _ h => h.append_left texts
  steps := Logs.stepClosed
  functions_eq := rfl
  calls _ _ _ args hw hentry := invoke_logs _ _ (hw _ hentry) args
  diagnose parts := logs_of_silent fun s =>
    ⟨(), _, run_diagnose parts s, Host.journal_diagnose _ _⟩
  free a text hfree := by
    rw [textsCalls_singleton, textCalls_of_free _ hfree]
    exact logs_of_silent fun s => ⟨a, s, rfl, rfl⟩
  located {text x y} hx := by
    intro s r t h
    rw [run_mapFailure] at h
    obtain ⟨⟨cause | v, u⟩, hrun, heq⟩ := Option.map_eq_some_iff.mp h
    · cases heq
      obtain ⟨made, log, ⟨hcause, hmade⟩, hlog, ht⟩ := hx s _ _ hrun
      have hsource : (run.locate text cause).source = .text text := by
        rw [Failure.source, (locate_of_unplaced run text hcause).2]
        rfl
      exact ⟨made, log, @StopsIn.inside _ [text] _ [] [] made text rfl hsource hmade, hlog, ht⟩
    · cases heq
      rw [textsCalls_singleton]
      exact hx s _ _ hrun

lemma carryOut_logs {mark : String → Bool → Value} {functions : Functions} (re : Reentry)
    {plan : Plan} {value locals : Value}
    (hmarks : ∀ text ∈ plan.texts value locals, CallsOnly (·.MarksCalls mark) functions text) :
    Logs mark (textsCalls functions (plan.texts value locals))
      (StopsIn functions (plan.texts value locals)) (plan.carryOut functions re value locals) :=
  carryOut_related (Logs.runClosed mark (Run.ofLocals functions re locals)) hmarks

/-- A function that marks its calls hands no templates back. -/
lemma RegistryEntry.MarksCalls.keeps {mark : String → Bool → Value}
    {entry : RegistryEntry Callable} (h : entry.MarksCalls mark) : ¬ entry.HandsBack := by
  obtain ⟨run, hrun, -⟩ := h
  rintro ⟨hforEach, -⟩
  exact absurd (hrun.symm.trans hforEach) (by simp)

/-- **The effects of a call.**  If the functions that are called mark their calls and values of any
size are interpreted, a call has a result.  If it succeeds, its marks are those of the calls of the
local parameters, of the global values that are expanded, and of the value.  If it fails, the calls
up to the failure are made, in the same order, and none after it. -/
theorem interpretTo_effects {mark : String → Bool → Value} {i : Interpreter} {r : Request}
    {options : Options} (hoptions : r.options = .ok options) (hoff : options.Unlimited)
    (hmarks : ∀ text ∈ r.texts options i.store, CallsOnly (·.MarksCalls mark) i.functions text)
    (depth : ℕ) (h : Host) :
    ∃ result h', (i.interpretTo depth r h).1 = some (result, h') ∧
      match result with
      | .ok _ => h'.journal = h.journal ++
          (textsCalls i.functions (r.texts options i.store)).map (mark · true)
      | .error e => ∃ made log, made <+: textsCalls i.functions (r.texts options i.store) ∧
          StopsIn i.functions (r.texts options i.store) e made ∧ Marked mark made log ∧
          h'.journal = h.journal ++ log := by
  have htexts {p : Plan} (hp : (r.plan i.store).1 = .ok p) :
      ∀ text ∈ p.texts r.value r.locals, CallsOnly (·.MarksCalls mark) i.functions text := by
    rw [r.texts_eq hoptions hoff hp]
    exact hmarks
  have hsome : ((i.interpretTo depth r h).1).isSome :=
    interpretPlanned_isSome (fun p hp text htext => (htexts hp text htext).mono
      fun w hw entry hentry => (hw entry hentry).keeps) _ h
  obtain ⟨⟨result, h'⟩, hrun⟩ := Option.isSome_iff_exists.mp hsome
  refine ⟨result, h', hrun, ?_⟩
  change interpretPlanned i.functions (reentry i.functions (r.plan i.store).2 depth) r
    (r.plan i.store).1 h = some (result, h') at hrun
  cases hplan : (r.plan i.store).1 with
  | error e =>
      have he : NotLocated ((i.store.enter options r.newGlobals).1.map (Plan.proceed options)) :=
        (Globals.Store.notLocated_enter _ _ _).map _
      rw [← r.plan_of_unlimited hoptions hoff] at he
      rw [hplan] at hrun
      cases hrun
      -- the new global values are refused before any text is evaluated
      exact ⟨[], [], List.nil_prefix, .outside (List.nil_append (r.texts options i.store)).symm
        (he e hplan).1, .succeeded [], (List.append_nil _).symm⟩
  | ok p =>
      rw [hplan] at hrun
      obtain ⟨⟨result', t⟩, hsteps, heq⟩ := Option.map_eq_some_iff.mp hrun
      cases heq
      have hlogs := carryOut_logs (reentry i.functions (r.plan i.store).2 depth) (htexts hplan)
      rw [r.texts_eq hoptions hoff hplan] at hlogs
      have ht := hlogs ⟨h, []⟩ _ _ hsteps
      cases result with
      | ok v => exact ht
      | error e =>
          obtain ⟨made, log, hstops, hlog, hjournal⟩ := ht
          exact ⟨made, log, hstops.made_prefix, hstops, hlog, hjournal⟩

/-- A function that leaves its name in the journal and gives it as its value. -/
def noting (name : String) : RegistryEntry Callable where
  name := name
  function := .function fun _ _ => ExceptT.mk fun h =>
    (.ok (.text name), { h with journal := h.journal ++ [.text name] })
  wantsParams := false

/-- An interpreter of three functions that leave their names. -/
def notingInterpreter : Interpreter := ⟨⟨[noting "arg", noting "value", noting "key"]⟩, ⟨[]⟩⟩

lemma noting_marksCalls (name : String) : (noting name).MarksCalls fun name _ => .text name := by
  refine ⟨_, rfl, fun args params h r h' hrun => ?_⟩
  cases hrun
  rfl

/-- Of an entry the value comes before the key, and of a call the argument before the call. -/
theorem interpretTo_effects_noting :
    let r : Request :=
      { value := .mapping [(.text "@key()", .text "@value(@arg())")] }
    ∃ h', (notingInterpreter.interpretTo 1 r Host.blank).1 =
        some (.ok (.mapping [(.text "key", .text "value")]), h') ∧
      h'.journal = [.text "arg", .text "value", .text "key"] := by
  intro r
  let functions := notingInterpreter.functions
  have hkey : Parses functions.isName "@key()" [.call "key" "@key" []] :=
    except_map_eq_ok.mp (by cbv)
  have hvalue : Parses functions.isName "@value(@arg())"
      [.call "value" "@value" [.call "arg" "@arg" []]] := except_map_eq_ok.mp (by cbv)
  have hmarks (text : String) :
      CallsOnly (·.MarksCalls fun name _ => .text name) functions text := by
    refine callsOnly_of_forall (fun entry hentry => ?_) text
    simp only [functions, notingInterpreter, List.mem_cons, List.not_mem_nil, or_false] at hentry
    rcases hentry with rfl | rfl | rfl <;> exact noting_marksCalls _
  have hcalls : textsCalls functions (r.texts .standard notingInterpreter.store) =
      ["arg", "value", "key"] := by
    have htexts : r.texts .standard notingInterpreter.store = ["@value(@arg())", "@key()"] := rfl
    rw [htexts, textsCalls, List.flatMap_cons, List.flatMap_cons, textCalls_of_parses hvalue,
      textCalls_of_parses hkey]
    rfl
  let run := Run.ofLocals functions (reentry functions ⟨[]⟩ 1) .null
  let after (journal : List Value) : Session := ⟨{ Host.blank with journal := journal }, []⟩
  have hfirst : (run.interpretString [] "@value(@arg())").run (after []) =
      some (.ok (.text "value"), after [.text "arg", .text "value"]) := by
    rw [interpretString_of_parses [] (by decide) hvalue]
    rfl
  have hsecond : (run.interpretString [] "@key()").run (after [.text "arg", .text "value"]) =
      some (.ok (.text "key"), after [.text "arg", .text "value", .text "key"]) := by
    rw [interpretString_of_parses [] (by decide) hkey]
    rfl
  have hwalk : (run.walk [] r.value).run (after []) =
      some (.ok (.mapping [(.text "key", .text "value")]),
        after [.text "arg", .text "value", .text "key"]) := by
    have hname : (run.interpretKey [] (.text "@key()")).run (after [.text "arg", .text "value"]) =
        some (.ok (.text "key"), after [.text "arg", .text "value", .text "key"]) :=
      run_bind_ok hsecond _
    have hentries : (run.walkEntries [] [(.text "@key()", .text "@value(@arg())")]).run (after []) =
        some (.ok [(.text "key", .text "value")],
          after [.text "arg", .text "value", .text "key"]) := by
      rw [Run.walkEntries, Run.walk, run_bind_ok hfirst, run_bind_ok hname]
      rfl
    rw [Run.walk, run_bind_ok hentries]
    rfl
  have hlayer : (run.layer .standard .null []).run (after []) = some (.ok [], after []) := rfl
  have hrun : (notingInterpreter.interpretTo 1 r Host.blank).1 =
      some (.ok (.mapping [(.text "key", .text "value")]),
        (after [.text "arg", .text "value", .text "key"]).host) :=
    interpretTo_of_walk rfl hlayer hwalk
  obtain ⟨result, h', heffects, hjournal⟩ := @interpretTo_effects _ notingInterpreter r .standard
    rfl Options.unlimited_standard (fun text _ => hmarks text) 1 Host.blank
  rw [hrun] at heffects
  obtain ⟨rfl, rfl⟩ := Prod.mk.inj (Option.some.inj heffects)
  rw [hcalls] at hjournal
  exact ⟨_, hrun, hjournal⟩

end Sigil
