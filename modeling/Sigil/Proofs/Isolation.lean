/-
# Calls that leave the global values out

A call that ignores the global values neither changes the store nor layers its values.  What it
hands back to the interpreter, however, is interpreted with the standard options and so sees the
store.  A call therefore depends on the store through the templates that it hands back and through
nothing else, and all such calls are isolated from the store exactly if no function that can be
called hands templates back.
-/
import Sigil.Library.Standard
import Sigil.Proofs.Reentry

namespace Sigil

/-- A request that leaves the global values out. -/
def Request.Ignores (r : Request) : Prop := ∃ o, r.options = .ok o ∧ o.ignoreGlobals = true

/-- Calls that ignore the global values have the same result from all stores. -/
def Isolated (functions : Functions) : Prop :=
  ∀ (r : Request) (store store' : Globals.Store) (h : Host), r.Ignores →
    (Interpreter.interpret ⟨functions, store⟩ r h).1 =
      (Interpreter.interpret ⟨functions, store'⟩ r h).1

/-- The plan of a request that ignores the global values does not depend on the store. -/
lemma Request.Ignores.plan {r : Request} (hr : r.Ignores) :
    ∃ plan, ∀ store, r.plan store = (plan, store) := by
  obtain ⟨o, ho, hignore⟩ := hr
  simp only [Request.plan, ho, Globals.Store.enter, hignore, if_true]
  cases o.tooLarge r.value with
  | error f => exact ⟨_, fun _ => rfl⟩
  | ok large => cases large <;> exact ⟨_, fun _ => rfl⟩

/-- The store enters into such a call through the interpreter of templates alone. -/
lemma Request.Ignores.interpretTo {r : Request} (hr : r.Ignores) (functions : Functions) :
    ∃ plan, ∀ depth store h, (r.plan store).1 = plan ∧
      Interpreter.interpretTo depth ⟨functions, store⟩ r h =
        (interpretPlanned functions (reentry functions store depth) r plan h, store) := by
  obtain ⟨plan, hplan⟩ := hr.plan
  refine ⟨plan, fun depth store h => ⟨by rw [hplan], ?_⟩⟩
  simp only [Interpreter.interpretTo, hplan]

/-! ### A call that hands a template back -/

/-- What the function for templates gives for a single item: the list of the one value that the
template gives, or a failure if the template fails. -/
def OneItem (out result : Except Failure Value) : Prop :=
  match out with
  | .ok v => result = .ok (.list [v])
  | .error _ => ∃ e, result = .error e

/-- The function for templates gives what the interpreter of templates gives for its only item. -/
lemma forEach_one {re : Reentry} {item template : Value} {h h' : Host} {out : Except Failure Value}
    (hre : re (templateOf template) (itemParams item) h = some (out, h')) :
    forEach re [.list [item], template] none h = some (out.map fun v => .list [v], h') := by
  have hforEach : forEach re [.list [item], template] none h =
      (interpretEach re (templateOf template) [item] h).map (Prod.map (Except.map .list) id) := rfl
  rw [hforEach, interpretEach, hre]
  cases out <;> rfl

/-- The parameters of a call over one item. -/
def oneItemParams : Entries := [(.text "xs", .list [.int 1])]

/-- The request to interpret a text over one item without the global values. -/
def overOneItem (text : String) : Request where
  value := .text text
  locals := .mapping oneItemParams
  options := .ok ⟨.null, true⟩

section

variable {functions : Functions} {re : Reentry} {text w : String} {args : List Node}
  {template : Value} {out : Except Failure Value} {entry : RegistryEntry Callable}

/-- The arguments are the item and the template. -/
def ItemAndTemplate (functions : Functions) (re : Reentry) (args : List Node) (template : Value) :
    Prop :=
  ∀ source, (Scope.evalArguments ⟨functions, oneItemParams, re⟩ false args).run
    ⟨Host.blank, [⟨source, []⟩]⟩ = some (.ok [.list [.int 1], template],
      ⟨Host.blank, [⟨source, [.list [.int 1], template]⟩]⟩)

lemma run_invoke_one (functions : Functions) (name : String) (frames : List Frame)
    (hback : entry.HandsBack)
    (hre : re (templateOf template) (itemParams (.int 1)) Host.blank = some (out, Host.blank)) :
    ∃ result, OneItem out result ∧
      (Scope.invoke ⟨functions, oneItemParams, re⟩ name entry [.list [.int 1], template]).run
        ⟨Host.blank, frames⟩ = some (result, ⟨Host.blank, frames⟩) := by
  have hcall : forEach re [.list [.int 1], template] none (Host.blank.diagnose
      (callNote name entry [.list [.int 1], template])) =
        some (out.map fun v => .list [v], Host.blank) := forEach_one hre
  rw [run_invoke_handsBack hback, hcall]
  cases out with
  | ok v => exact ⟨.ok (.list [v]), rfl, rfl⟩
  | error e => exact ⟨.error (callFailure name [.list [.int 1], template] frames e), ⟨_, rfl⟩, rfl⟩

lemma run_text_one {name : String} (hparse : Parses functions.isName text [.call name w args])
    (hentry : functions.lookup name = some entry) (hback : entry.HandsBack)
    (hargs : ItemAndTemplate functions re args template)
    (hre : re (templateOf template) (itemParams (.int 1)) Host.blank = some (out, Host.blank)) :
    ∃ result, OneItem out result ∧
      (Scope.run ⟨functions, oneItemParams, re⟩ text).run ⟨Host.blank, []⟩ =
        some (result, ⟨Host.blank, []⟩) := by
  let sc : Scope := ⟨functions, oneItemParams, re⟩
  let frame : Frame := ⟨if w.isEmpty then "@" ++ name else w, []⟩
  obtain ⟨result, hone, hinvoke⟩ := run_invoke_one functions name
    [{ frame with arguments := [.list [.int 1], template] }] hback hre
  have hcall : (sc.evalTop (.call name w args)).run ⟨Host.blank, []⟩ =
      some (result, ⟨Host.blank, []⟩) := by
    have hlookup : sc.functions.lookup name = some entry := hentry
    rw [evalTop_call hlookup, hback.2]
    exact Eval.run_within ⟨Host.blank, []⟩ frame ((Eval.run_bind_ok (hargs _) _).trans hinvoke)
  refine ⟨result, hone, ?_⟩
  have hparse' : Parses sc.functions.isName text [.call name w args] := hparse
  rw [run_of_parses hparse', Scope.eval, Eval.run_bind, hcall]
  cases out with
  | ok v =>
      obtain rfl : result = .ok (.list [v]) := hone
      rfl
  | error e =>
      obtain ⟨e', rfl⟩ := hone
      rfl

/-- A call over one item gives what the interpreter of templates gives for the template. -/
lemma interpretTo_one {name : String} {depth : ℕ} {store : Globals.Store}
    (hsigil : text.toList.contains sigil)
    (hparse : Parses functions.isName text [.call name w args])
    (hentry : functions.lookup name = some entry) (hback : entry.HandsBack)
    (hargs : ItemAndTemplate functions (reentry functions store depth) args template)
    (hre : reentry functions store depth (templateOf template) (itemParams (.int 1)) Host.blank =
      some (out, Host.blank)) :
    ∃ result, OneItem out result ∧
      (Interpreter.interpretTo depth ⟨functions, store⟩ (overOneItem text) Host.blank).1 =
        some (result, Host.blank) := by
  obtain ⟨result, hone, hrun⟩ := run_text_one hparse hentry hback hargs hre
  let run : Run := .ofLocals functions (reentry functions store depth) (overOneItem text).locals
  have hwalk : (run.walk oneItemParams (.text text)).run ⟨Host.blank, []⟩ =
      some (result.mapError (run.locate text), ⟨Host.blank, []⟩) := by
    rw [Run.walk, Run.interpretString, if_pos hsigil]
    exact (Eval.run_bind_ok (Eval.run_outcome hrun) _).trans rfl
  have hlayer : (run.layer ⟨.null, true⟩ (overOneItem text).locals []).run ⟨Host.blank, []⟩ =
      some (.ok oneItemParams, ⟨Host.blank, []⟩) := rfl
  refine ⟨result.mapError (run.locate text), ?_, ?_⟩
  · cases out with
    | ok v =>
        obtain rfl : result = .ok (.list [v]) := hone
        rfl
    | error e =>
        obtain ⟨e', rfl⟩ := hone
        exact ⟨run.locate text e', rfl⟩
  · have hsteps := (Eval.run_bind_ok hlayer fun params => run.walk params (.text text)).trans hwalk
    exact Option.map_eq_some_iff.mpr ⟨_, hsteps, rfl⟩

/-- The scanner cuts a call word before the parenthesis that opens its arguments. -/
lemma pieceAt?_callWord (hw : CallWord functions w) (rest : List Char) :
    ∃ cs, w.toList = sigil :: cs ∧
      pieceAt? functions.isName 0 sigil (cs ++ '(' :: rest) = some (.call, sigil :: cs) := by
  obtain ⟨cs, hcs⟩ := sigil_of_isCallWord hw.1
  have hname : isCallWord functions.isName (sigil :: cs) := hcs ▸ hw.1
  have hchars : ∀ c ∈ cs, isWordChar c := by simpa [hcs] using hw.2
  have htake : (cs ++ '(' :: rest).takeWhile isWordChar = cs := by
    rw [List.takeWhile_append_of_pos hchars]
    exact List.append_nil cs
  have hword : pieceAt? functions.isName 0 sigil (cs ++ '(' :: rest) =
      some (if isCallWord functions.isName (sigil :: (cs ++ '(' :: rest).takeWhile isWordChar)
        then .call else .text, sigil :: (cs ++ '(' :: rest).takeWhile isWordChar) := rfl
  exact ⟨cs, hcs, by rw [hword, htake, if_pos hname]⟩

/-- A call of two bare names, wherever its tokens stand. -/
lemma call_of_names {a b : String} (ha : Grammar.IsName a) (hb : Grammar.IsName b)
    (i j k l m n : ℕ) : Grammar.Call [⟨.call, w, i⟩, ⟨.opening, "(", j⟩, ⟨.text, a, k⟩,
      ⟨.comma, ",", l⟩, ⟨.text, b, m⟩, ⟨.closing, ")", n⟩]
      (.call (calledName w) w [.ident a, .ident b]) [] := by
  have hblanks : Grammar.Blanks [] := by simp [Grammar.Blanks]
  have hlast : Grammar.Arguments [⟨.text, b, m⟩, ⟨.closing, ")", n⟩] [.ident b] [] :=
    @Grammar.Arguments.last ⟨.closing, ")", n⟩ [] [] _ [] _ hblanks (.name rfl hb) hblanks rfl
  have hmore : Grammar.Arguments [⟨.text, a, k⟩, ⟨.comma, ",", l⟩, ⟨.text, b, m⟩,
      ⟨.closing, ")", n⟩] [.ident a, .ident b] [] :=
    @Grammar.Arguments.more ⟨.comma, ",", l⟩ [] [] _ _ [] _ _ hblanks (.name rfl ha) hblanks rfl
      hlast
  exact @Grammar.Call.arguments ⟨.call, w, i⟩ ⟨.opening, "(", j⟩ _ _ _ rfl rfl hmore

/-- Any call word may be called with a parameter as both arguments. -/
lemma parses_call_xs (hw : CallWord functions w) :
    Parses functions.isName (w ++ "(xs,xs)")
      [.call (calledName w) w [.ident "xs", .ident "xs"]] := by
  have hxs : Grammar.IsName "xs" := Grammar.isBareName_iff.mp (by decide)
  obtain ⟨cs, hcs, hpiece⟩ := pieceAt?_callWord hw ['x', 's', ',', 'x', 's', ')']
  have hcut : Cut functions.isName ⟨0, false⟩ (w ++ "(xs,xs)").toList [(.call, w.toList),
      (.opening, ['(']), (.text, ['x', 's']), (.comma, [',']), (.text, ['x', 's']),
      (.closing, [')'])] [] := by
    rw [String.toList_append, hcs]
    exact .piece hpiece rfl (.piece rfl rfl (.piece rfl rfl (.piece rfl rfl (.piece rfl rfl
      (.piece rfl rfl .done)))))
  refine parses_iff.mpr ⟨_, hcut, .call ?_ .done⟩
  simpa only [place, String.ofList_toList] using call_of_names hxs hxs _ _ _ _ _ _

end

/-! ### Isolation -/

/-- A store whose only entry has a format that does not exist. -/
def unresolvable : Globals.Store := ⟨[(.text "k", .mapping [(.text "format", .text "?")])]⟩

lemma not_isolated_of_handsBack {functions : Functions} (h : HandsBack functions) :
    ¬ Isolated functions := by
  obtain ⟨w, entry, hw, hentry, hback⟩ := h
  intro hisolated
  have hsigil : (w ++ "(xs,xs)").toList.contains sigil := by
    obtain ⟨cs, hcs⟩ := sigil_of_isCallWord hw.1
    simp [hcs]
  have hargs (re : Reentry) :
      ItemAndTemplate functions re [.ident "xs", .ident "xs"] (.list [.int 1]) := fun _ => rfl
  -- the template is left as it is, unless the global values cannot be resolved
  have hok (depth : ℕ) : reentry functions ⟨[]⟩ (depth + 1) (templateOf (.list [.int 1]))
      (itemParams (.int 1)) Host.blank = some (.ok (.list [.int 1]), Host.blank) := rfl
  have hfail (depth : ℕ) : reentry functions unresolvable (depth + 1)
      (templateOf (.list [.int 1])) (itemParams (.int 1)) Host.blank =
        some (.error (.globalValue (.text "k") "unknown format '?'" none), Host.blank) := rfl
  obtain ⟨result, hone, hresult⟩ := interpretTo_one hsigil (parses_call_xs hw) hentry hback
    (hargs _) (hok 999)
  obtain ⟨result', ⟨e, hone'⟩, hresult'⟩ := interpretTo_one hsigil (parses_call_xs hw) hentry hback
    (hargs _) (hfail 999)
  have heq := hisolated (overOneItem (w ++ "(xs,xs)")) ⟨[]⟩ unresolvable Host.blank ⟨_, rfl, rfl⟩
  rw [Interpreter.interpret, Interpreter.interpret, Interpreter.nestingLimit, hresult, hresult',
    hone'] at heq
  obtain rfl : result = .ok (.list [.list [.int 1]]) := hone
  simp at heq

/-- **Calls that ignore the global values.**  Such a call leaves the store as it is.  If it has a
result when only those templates are interpreted on which two stores agree, it has this result from
both stores.  All such calls are isolated from the store if and only if no call word names a
function that hands templates back. -/
theorem ignoring_call (functions : Functions) :
    (∀ depth store (r : Request) h, r.Ignores →
      (Interpreter.interpretTo depth ⟨functions, store⟩ r h).2 = store) ∧
    (∀ depth store store' (r : Request) h re x, r.Ignores →
      Reentry.Below re (reentry functions store depth) →
      Reentry.Below re (reentry functions store' depth) →
      interpretPlanned functions re r (r.plan store).1 h = some x →
        (Interpreter.interpretTo depth ⟨functions, store⟩ r h).1 = some x ∧
        (Interpreter.interpretTo depth ⟨functions, store'⟩ r h).1 = some x) ∧
    (Isolated functions ↔ ¬ HandsBack functions) := by
  refine ⟨fun depth store r h hr => ?_, fun depth store store' r h re x hr hre hre' hx => ?_,
    fun hisolated hback => not_isolated_of_handsBack hback hisolated, fun hkeeps => ?_⟩
  · obtain ⟨plan, hplan⟩ := hr.interpretTo functions
    rw [(hplan depth store h).2]
  · obtain ⟨plan, hplan⟩ := hr.interpretTo functions
    rw [(hplan depth store h).1] at hx
    rw [(hplan depth store h).2, (hplan depth store' h).2]
    exact ⟨interpretPlanned_below (.of_below hre) hx, interpretPlanned_below (.of_below hre') hx⟩
  · intro r store store' h hr
    obtain ⟨plan, hplan⟩ := hr.interpretTo functions
    rw [Interpreter.interpret, Interpreter.interpret, (hplan _ store h).2, (hplan _ store' h).2]
    exact interpretPlanned_congr hkeeps _ _ r plan h

lemma callWord_forof : CallWord Library.standard "@forof" :=
  ⟨by cbv, List.all_eq_true.mp (by decide)⟩

lemma lookup_forof : Library.standard.lookup (calledName "@forof") = some Library.forEachEntry := by
  cbv

/-- Without its function for templates the standard library hands nothing back. -/
lemma not_handsBack_builtins : ¬ HandsBack ⟨Library.builtins.map Library.Builtin.entry⟩ := by
  rintro ⟨w, entry, -, hentry, hback⟩
  obtain ⟨b, -, rfl⟩ := List.mem_map.mp (List.mem_of_find?_eq_some hentry)
  exact absurd hback.1 (by simp [Library.Builtin.entry, Library.Builtin.toCallable])

/-- The standard library is not isolated from the store; without its function for templates it
is. -/
theorem ignoring_call_standard :
    let r := overOneItem "@gv('xs')"
    r.Ignores ∧
      (Interpreter.interpretTo 1 ⟨Library.standard, unresolvable⟩ r Host.blank).2 = unresolvable ∧
      (Interpreter.interpretTo 1 ⟨Library.standard, unresolvable⟩ r Host.blank).1 =
        some (.ok (.list [.int 1]), Host.blank) ∧
      ¬ Isolated Library.standard ∧
      Isolated ⟨Library.builtins.map Library.Builtin.entry⟩ := by
  intro r
  have hr : r.Ignores := ⟨_, rfl, rfl⟩
  have hnone (re : Reentry) : Reentry.Below (fun _ _ _ => none) re := by
    intro _ _ _ _ h
    simp at h
  have hrun : interpretPlanned Library.standard (fun _ _ _ => none) r (r.plan unresolvable).1
      Host.blank = some (.ok (.list [.int 1]), Host.blank) := by
    cbv
  refine ⟨hr, (ignoring_call _).1 1 unresolvable r Host.blank hr, ?_, ?_, ?_⟩
  · exact ((ignoring_call _).2.1 1 unresolvable unresolvable r Host.blank _ _ hr (hnone _) (hnone _)
      hrun).1
  · exact fun h => (ignoring_call _).2.2.mp h ⟨_, _, callWord_forof, lookup_forof, rfl, rfl⟩
  · exact (ignoring_call _).2.2.mpr not_handsBack_builtins

/-- A template sees a global value that the call ignores. -/
theorem forof_sees_store :
    let r := overOneItem "@forof(xs, '@gv(g)')"
    r.Ignores ∧
      (Interpreter.interpret ⟨Library.standard, ⟨[]⟩⟩ r Host.blank).1 =
        some (.ok (.list [.text ""]), Host.blank) ∧
      (Interpreter.interpret ⟨Library.standard, ⟨[(.text "g", .text "leak")]⟩⟩ r Host.blank).1 =
        some (.ok (.list [.text "leak"]), Host.blank) ∧
      ¬ Isolated Library.standard := by
  intro r
  have hr : r.Ignores := ⟨_, rfl, rfl⟩
  have hparse : Parses Library.standard.isName "@forof(xs, '@gv(g)')"
      [.call "forof" "@forof" [.ident "xs", .string "'@gv(g)'"]] := except_map_eq_ok.mp (by cbv)
  have hargs (re : Reentry) : ItemAndTemplate Library.standard re
      [.ident "xs", .string "'@gv(g)'"] (.text "@gv(g)") := fun _ => rfl
  have htemplate : templateOf (.text "@gv(g)") = .text "@gv(g)" := rfl
  have hempty (depth : ℕ) : reentry Library.standard ⟨[]⟩ (depth + 1)
      (templateOf (.text "@gv(g)")) (itemParams (.int 1)) Host.blank =
        some (.ok (.text ""), Host.blank) := by
    rw [htemplate]
    cbv
  have hleak (depth : ℕ) : reentry Library.standard ⟨[(.text "g", .text "leak")]⟩ (depth + 1)
      (templateOf (.text "@gv(g)")) (itemParams (.int 1)) Host.blank =
        some (.ok (.text "leak"), Host.blank) := by
    rw [htemplate]
    cbv
  obtain ⟨_, rfl, hresult⟩ := interpretTo_one (by decide) hparse lookup_forof ⟨rfl, rfl⟩ (hargs _)
    (hempty 999)
  obtain ⟨_, rfl, hresult'⟩ := interpretTo_one (by decide) hparse lookup_forof ⟨rfl, rfl⟩ (hargs _)
    (hleak 999)
  refine ⟨hr, hresult, hresult', fun hisolated => ?_⟩
  have heq := hisolated r ⟨[]⟩ ⟨[(.text "g", .text "leak")]⟩ Host.blank hr
  exact absurd (hresult.symm.trans (heq.trans hresult')) (by simp)

end Sigil
