/-
# What global values resolve to

Resolving keeps the keys of the flattened global values in their order.  An entry that is not to be
expanded is resolved on its own.  One that is expands the compact JSON text of its own value, with
the other entries, overlaid by the local parameters, as variables; so if the expander is a function
of the text and the variables, no entry that is expanded has an influence on another entry.  Leaving
such entries out gives the part of the result that stands under the other keys, and is refused for
the same shapes and formats with the same errors.
-/
import Sigil.Proofs.Layering
import Sigil.Proofs.Shapes

namespace Sigil.Globals

open Eval

/-! ### Entries that are expanded -/

/-- The entry has the format of entries that are expanded. -/
def isJson (entry : Value) : Bool :=
  match format? entry with
  | none => false
  | some (format, _) =>
    match format.plain with
    | .ok name => String.ofList (Text.lower name.toList) == "json"
    | .error _ => false

/-- The value that an entry with a format holds. -/
def heldValue (entry : Value) : Value :=
  match format? entry with
  | none => .null
  | some (_, fields) => (Entries.getText? fields "value").getD .null

/-- The value of a key in the entries is deferred for its format alone. -/
lemma resolveEntry_deferred_iff {key entry v : Value} :
    resolveEntry key entry = .ok (.deferred v) ↔ isJson entry ∧ heldValue entry = v := by
  unfold resolveEntry isJson heldValue
  cases format? entry with
  | none => simp
  | some p =>
      obtain ⟨format, fields⟩ := p
      cases hname : format.plain with
      | error f => simp [textOf, hname, Except.mapError, bind, Except.bind]
      | ok name =>
          simp only [textOf, hname, Except.mapError, bind, Except.bind]
          split_ifs with htext hverbatim hjson
          · have hkind : String.ofList (Text.lower name.toList) ≠ "json" := by
              rintro h
              simp [h] at htext
            cases textEntry fields <;> simp [Except.map, hkind]
          · have hkind := beq_iff_eq.mp hverbatim
            simp [pure, Except.pure, hkind]
          · simp [pure, Except.pure, hjson]
          · cases format.shown <;> simp [problem_ne_ok, hjson]

lemma resolveEntry_of_isJson {entry : Value} (h : isJson entry) (key : Value) :
    resolveEntry key entry = .ok (.deferred (heldValue entry)) :=
  resolveEntry_deferred_iff.mpr ⟨h, rfl⟩

lemma isJson_of_value {key entry v : Value} (h : resolveEntry key entry = .ok (.value v)) :
    isJson entry = false := by
  rw [Bool.eq_false_iff]
  intro hjson
  simp [resolveEntry_of_isJson hjson key] at h

/-! ### What an entry resolves to -/

/-- What the expander gives is a function of the text and the variables, from every session. -/
def Expander.Computes (expand : Expander) (f : String → Entries → Except Failure Value) : Prop :=
  ∀ text bindings s, ∃ t, (expand text bindings).run s = some (f text bindings, t)

section

variable (f : String → Entries → Except Failure Value) (bindings : Entries)

/-- An entry and its value, where texts are expanded with the same variables. -/
inductive Stands : Value × Value → Value × Value → Prop
  | plain {key entry v : Value} : resolveEntry key entry = .ok (.value v) →
      Stands (key, entry) (key, v)
  | json {key entry v : Value} {text : String} : isJson entry →
      Json.render .compact (heldValue entry) = .ok text → f text bindings = .ok v →
      Stands (key, entry) (key, v)

variable {f bindings} in
lemma Stands.key_eq {e o : Value × Value} (h : Stands f bindings e o) : o.1 = e.1 := by
  cases h <;> rfl

/-- The error of an entry that is not expanded: its value has no JSON text, or the expander fails
for the text. -/
def NotExpanded (entries : Entries) (e : Failure) : Prop :=
  ∃ entry ∈ entries, isJson entry.2 ∧
    ((∃ fault, Json.render .compact (heldValue entry.2) = .error fault ∧ e = .fault fault) ∨
      ∃ text, Json.render .compact (heldValue entry.2) = .ok text ∧ f text bindings = .error e)

variable {f bindings} {expand : Expander} {entries out : Entries}
  {rs : List (Value × Resolution)} {s t : Session} {e : Failure}

lemma NotExpanded.cons (h : NotExpanded f bindings entries e) (first : Value × Value) :
    NotExpanded f bindings (first :: entries) e := by
  obtain ⟨entry, hentry, hrest⟩ := h
  exact ⟨entry, List.mem_cons_of_mem first hentry, hrest⟩

/-- An expansion of all entries ends with what they stand for, or with the error of one of them. -/
lemma run_expandAll (hpure : expand.Computes f) (hrs : List.Forall₂ ResolvesTo entries rs)
    (s : Session) :
    ∃ r t, (expandAll expand bindings rs).run s = some (r, t) ∧
      match r with
      | .ok out => List.Forall₂ (Stands f bindings) entries out
      | .error e => NotExpanded f bindings entries e := by
  induction hrs generalizing s with
  | nil => exact ⟨.ok [], s, rfl, .nil⟩
  | @cons entry r _ rest he _ ih =>
      obtain ⟨key, value⟩ := entry
      obtain ⟨key', v | v⟩ := r
      · obtain ⟨rfl, hvalue⟩ : key' = key ∧ resolveEntry key value = .ok (.value v) := he
        obtain ⟨r, t, hrun, hr⟩ := ih s
        rw [expandAll]
        cases r with
        | ok out => exact ⟨_, t, run_bind_ok hrun _, .cons (.plain hvalue) hr⟩
        | error e => exact ⟨_, t, run_bind_error hrun _, hr.cons _⟩
      · obtain ⟨rfl, hvalue⟩ : key' = key ∧ resolveEntry key value = .ok (.deferred v) := he
        obtain ⟨hjson, rfl⟩ := resolveEntry_deferred_iff.mp hvalue
        rw [expandAll]
        cases htext : Json.render .compact (heldValue value) with
        | error fault =>
            exact ⟨.error (.fault fault), s, rfl, _, List.mem_cons_self, hjson,
              .inl ⟨fault, htext, rfl⟩⟩
        | ok text =>
            rw [ofFault_ok, pure_bind]
            obtain ⟨u, hexpand⟩ := hpure text bindings s
            cases hw : f text bindings with
            | error e =>
                rw [hw] at hexpand
                exact ⟨.error e, u, run_bind_error hexpand _, _, List.mem_cons_self, hjson,
                  .inr ⟨text, htext, hw⟩⟩
            | ok w =>
                rw [hw] at hexpand
                rw [run_bind_ok hexpand]
                obtain ⟨r, t, hrun, hr⟩ := ih u
                cases r with
                | ok out => exact ⟨_, t, run_bind_ok hrun _, .cons (.json hjson htext hw) hr⟩
                | error e => exact ⟨_, t, run_bind_error hrun _, hr.cons _⟩

end

/-! ### Resolutions -/

section

variable {globals : Value} {entries : Entries} {rs : List (Value × Resolution)} {e : Failure}

/-- Only the flattened entries of global values matter. -/
lemma resolve_of_flatten (h : flatten globals = .ok entries) (expand : Option Expander)
    (overlay : Value) :
    resolve globals expand overlay = resolve (.mapping entries) expand overlay := by
  have hmapping : flatten (.mapping entries) = .ok entries := rfl
  rw [resolve, resolve, h, hmapping]

lemma resolvePlain_of_flatten (h : flatten globals = .ok entries) :
    resolvePlain globals = resolvePlain (.mapping entries) := by
  have hmapping : flatten (.mapping entries) = .ok entries := rfl
  rw [resolvePlain, resolvePlain, h, hmapping]

/-- The global values are refused: they have no proper shape, or their first entry that is not
resolved has an unknown format. -/
inductive Refused (globals : Value) (e : Failure) : Prop
  | shape : Misshapen globals e → Refused globals e
  | format {entries : Entries} : flatten globals = .ok entries → RejectedFor entries e →
      Refused globals e

lemma resolveEntry_of_hasUnknownFormat {key entry : Value} {shown text : String}
    (h : HasUnknownFormat entry shown) (hkey : key.shown = .ok text) :
    resolveEntry key entry = .error (.globalValue key ("unknown format " ++ shown) none) := by
  obtain ⟨format, fields, name, hformat, hname, hkind, hshown⟩ := h
  simp only [formats, List.mem_cons, List.not_mem_nil, or_false, not_or] at hkind
  obtain ⟨htext, hlist, hverbatim, hjson⟩ := hkind
  simp [resolveEntry, hformat, textOf, hname, hshown, htext, hlist, hverbatim, hjson, problem,
    hkey, Except.mapError, bind, Except.bind]

lemma resolutions_of_rejectedFor (h : RejectedFor entries e) : resolutions entries = .error e := by
  obtain ⟨before, key, entry, after, shown, rfl, ⟨rs, hrs⟩, hshown, ⟨text, hkey⟩, rfl⟩ := h
  induction before generalizing rs with
  | nil => exact except_bind_eq_error.mpr (.inl (resolveEntry_of_hasUnknownFormat hshown hkey))
  | cons first before ih =>
      obtain ⟨r, hr, h⟩ := except_bind_eq_ok.mp hrs
      obtain ⟨more, hmore, -⟩ := except_bind_eq_ok.mp h
      exact except_bind_eq_error.mpr (.inr ⟨r, hr, except_bind_eq_error.mpr (.inl (ih more hmore))⟩)

/-- Without expansions, the error of a global value is that of a shape or of an unknown format. -/
lemma resolvePlain_eq_error_iff (he : e.IsOfGlobals) :
    resolvePlain globals = .error e ↔ Refused globals e := by
  cases hflatten : flatten globals with
  | error e' =>
      have hsteps : resolvePlain globals = .error e' := by rw [resolvePlain, hflatten]; rfl
      rw [hsteps, Except.error.injEq]
      constructor
      · rintro rfl
        exact .shape ((flatten_error_iff he).mp hflatten)
      · rintro (h | ⟨h, -⟩)
        · exact Except.error.inj (hflatten.symm.trans ((flatten_error_iff he).mpr h))
        · cases hflatten.symm.trans h
  | ok entries =>
      rw [resolvePlain_of_flatten hflatten, resolvePlain_eq_error]
      constructor
      · exact fun h => .format hflatten (resolutions_error h he)
      · rintro (h | ⟨h, hentries⟩)
        · cases hflatten.symm.trans ((flatten_error_iff he).mpr h)
        · cases hflatten.symm.trans h
          exact resolutions_of_rejectedFor hentries

/-- What is not resolved without expansions is not resolved with them either. -/
lemma run_resolve_of_error (h : resolvePlain globals = .error e) (expand : Option Expander)
    (overlay : Value) (s : Session) :
    (resolve globals expand overlay).run s = some (.error e, s) := by
  obtain h | ⟨entries, hentries, h⟩ := except_bind_eq_error.mp h
  · rw [resolve, h]
    rfl
  · obtain h | ⟨rs, -, h⟩ := except_bind_eq_error.mp h
    · rw [resolve, hentries, ofExcept_ok, pure_bind, h]
      rfl
    · cases h

/-- The entries that are not expanded, at the places of the entries they belong to. -/
def withoutJson (entries out : Entries) : Entries :=
  ((entries.zip out).filter fun p => !isJson p.1.2).map Prod.snd

lemma plainEntries_eq_withoutJson {f : String → Entries → Except Failure Value}
    {bindings out : Entries} (hrs : List.Forall₂ ResolvesTo entries rs)
    (hout : List.Forall₂ (Stands f bindings) entries out) :
    plainEntries rs = withoutJson entries out := by
  induction hrs generalizing out with
  | nil =>
      cases hout
      rfl
  | @cons entry r entries rest he _ ih =>
      cases hout with
      | @cons _ o _ out ho hout =>
          have hrest := ih hout
          obtain ⟨key, value⟩ := entry
          obtain ⟨key', w | w⟩ := r
          · obtain ⟨rfl, hvalue⟩ : key' = key ∧ resolveEntry key value = .ok (.value w) := he
            cases ho with
            | @plain _ _ v hv =>
                have hjson : isJson value = false := isJson_of_value hv
                obtain rfl : w = v := by simpa [hvalue] using hv
                simpa [plainEntries, withoutJson, hjson, Resolution.value?] using hrest
            | json hjson => simp [isJson_of_value hvalue] at hjson
          · obtain ⟨rfl, hvalue⟩ : key' = key ∧ resolveEntry key value = .ok (.deferred w) := he
            have hjson : isJson value = true := (resolveEntry_deferred_iff.mp hvalue).1
            simpa [plainEntries, withoutJson, hjson, Resolution.value?] using hrest

/-- The entries that are not to be expanded. -/
def plainOnes (entries : Entries) : Entries := entries.filter fun e => !isJson e.2

/-- The values without expansion are those of the entries that are not to be expanded. -/
lemma plainValues_plainOnes (entries : Entries) :
    plainValues (plainOnes entries) = plainValues entries := by
  induction entries with
  | nil => rfl
  | cons e rest ih =>
      cases hjson : isJson e.2 with
      | false =>
          rw [plainOnes, List.filter_cons_of_pos (by simp [hjson]), ← plainOnes]
          simp only [plainValues, List.filterMap_cons] at ih ⊢
          rw [ih]
      | true =>
          have hnone : plainValue? e = none := by rw [plainValue?, resolveEntry_of_isJson hjson]
          rw [plainOnes, List.filter_cons_of_neg (by simp [hjson]), ← plainOnes, ih, plainValues,
            plainValues, List.filterMap_cons_none hnone]

end

/-- What global values resolve to: their flattened `entries` to `out`, and without expansions to
`plain`. -/
structure Resolved (f : String → Entries → Except Failure Value)
    (locals entries plain out : Entries) : Prop where
  /-- The keys are those of the entries, in their order. -/
  keys : out.map Prod.fst = entries.map Prod.fst
  /-- An entry that is not to be expanded is resolved on its own. -/
  ofPlain {key entry : Value} : Entries.get? entries key = some entry → isJson entry = false →
    ∃ v, resolveEntry key entry = .ok (.value v) ∧ Entries.get? out key = some v
  /-- The compact JSON text of the value that an entry holds is expanded with the entries that are
  not to be expanded, overlaid by the local parameters. -/
  ofJson {key entry : Value} : Entries.get? entries key = some entry → isJson entry = true →
    ∃ text v, Json.render .compact (heldValue entry) = .ok text ∧
      f text (Entries.update plain locals) = .ok v ∧ Entries.get? out key = some v
  /-- Without expansions, the entries that are to be expanded are left out. -/
  plain_eq : plain = withoutJson entries out

section

variable {f : String → Entries → Except Failure Value} {expand : Expander} {globals : Value}
  {locals entries plain out : Entries} {s t : Session} {e : Failure}

lemma resolved_of_stands (hplain : plain = withoutJson entries out)
    (hout : List.Forall₂ (Stands f (Entries.update plain locals)) entries out) :
    Resolved f locals entries plain out where
  keys := by
    clear hplain
    induction hout with
    | nil => rfl
    | cons h _ ih => simp [h.key_eq, ih]
  ofPlain hentry hjson := by
    obtain ⟨_, o, ho, hstands⟩ :=
      Entries.exists_get?_of_forall₂ hout (fun _ _ h => congrArg Value.key h.key_eq) hentry
    cases hstands with
    | plain hvalue => exact ⟨_, (resolveEntry_congr hvalue _), ho⟩
    | json hjson' => simp [hjson'] at hjson
  ofJson hentry hjson := by
    obtain ⟨_, o, ho, hstands⟩ :=
      Entries.exists_get?_of_forall₂ hout (fun _ _ h => congrArg Value.key h.key_eq) hentry
    cases hstands with
    | plain hvalue => simp [isJson_of_value hvalue] at hjson
    | json _ htext hv => exact ⟨_, _, htext, hv, ho⟩
  plain_eq := hplain

/-- A resolution that is not refused ends with the values of all entries, or with the error of an
entry that is not expanded. -/
lemma run_resolve (hpure : expand.Computes f) (hplain : resolvePlain globals = .ok plain)
    (locals : Entries) (s : Session) :
    ∃ entries r t, flatten globals = .ok entries ∧ plain = plainValues entries ∧
      (resolve globals (some expand) (.mapping locals)).run s = some (r, t) ∧
      match r with
      | .ok out => Resolved f locals entries plain out
      | .error e => NotExpanded f (Entries.update plain locals) entries e := by
  obtain ⟨entries, hentries, -⟩ := except_bind_eq_ok.mp hplain
  rw [resolvePlain_of_flatten hentries] at hplain
  obtain ⟨rs, hrs, rfl⟩ := resolvePlain_eq_ok hplain
  have hresolves := resolutions_eq_ok hrs
  obtain ⟨r, t, hrun, hr⟩ :=
    @run_expandAll f (Entries.update (plainEntries rs) locals) _ _ _ hpure hresolves s
  refine ⟨entries, r, t, hentries, plainEntries_eq hresolves, ?_, ?_⟩
  · rw [resolve_of_flatten hentries, resolve_mapping hrs, hrun]
  · cases r with
    | ok out => exact resolved_of_stands (plainEntries_eq_withoutJson hresolves hr) hr
    | error e => exact hr

lemma resolvePlain_of_resolve
    (h : (resolve globals (some expand) (.mapping locals)).run s = some (.ok out, t)) :
    ∃ plain, resolvePlain globals = .ok plain := by
  cases hplain : resolvePlain globals with
  | ok plain => exact ⟨plain, rfl⟩
  | error e =>
      rw [run_resolve_of_error hplain] at h
      cases h

/-- A resolution that succeeds gives what its entries resolve to. -/
lemma resolved_of_run (hpure : expand.Computes f)
    (h : (resolve globals (some expand) (.mapping locals)).run s = some (.ok out, t)) :
    ∃ entries plain, flatten globals = .ok entries ∧ resolvePlain globals = .ok plain ∧
      plain = plainValues entries ∧ Resolved f locals entries plain out := by
  obtain ⟨plain, hplain⟩ := resolvePlain_of_resolve h
  obtain ⟨entries, r, u, hentries, hvalues, hrun, hr⟩ := run_resolve hpure hplain locals s
  obtain ⟨rfl, rfl⟩ : r = .ok out ∧ u = t := by simpa [hrun] using h
  exact ⟨entries, plain, hentries, hplain, hvalues, hr⟩

/-- An entry that two resolutions share has one value if it is not to be expanded, or if the entries
that are not to be expanded are the same in both. -/
lemma Resolved.get?_eq {entries' out' : Entries} {key entry : Value}
    (h : Resolved f locals entries (plainValues entries) out)
    (h' : Resolved f locals entries' (plainValues entries') out')
    (hentry : Entries.get? entries key = some entry)
    (hentry' : Entries.get? entries' key = some entry)
    (hshared : isJson entry = true → plainOnes entries = plainOnes entries') :
    Entries.get? out key = Entries.get? out' key := by
  cases hjson : isJson entry with
  | false =>
      obtain ⟨v, hv, hout⟩ := h.ofPlain hentry hjson
      obtain ⟨v', hv', hout'⟩ := h'.ofPlain hentry' hjson
      obtain rfl : v = v' := by simpa [hv] using hv'
      rw [hout, hout']
  | true =>
      have hsame : plainValues entries = plainValues entries' := by
        rw [← plainValues_plainOnes, hshared hjson, plainValues_plainOnes]
      obtain ⟨text, v, htext, hv, hout⟩ := h.ofJson hentry hjson
      obtain ⟨text', v', htext', hv', hout'⟩ := h'.ofJson hentry' hjson
      obtain rfl : text = text' := by simpa [htext] using htext'
      obtain rfl : v = v' := by simpa [hsame, hv'] using hv.symm
      rw [hout, hout']

end

/-- **What global values resolve to.**  A resolution that succeeds has the keys of the flattened
global values in their order; an entry is resolved on its own, or expanded as the text of its own
value with the entries that are not expanded, overlaid by the local parameters; without expansions
the latter are what remains.  An entry therefore has the same value in two resolutions if it is not
expanded, or if they have the same entries that are not expanded.  With and without expansions the
global values are refused for the same shapes and formats, with the same errors.  Whatever fails
without expansions fails with them in the same way, and all other failures of a resolution are those
of an expansion. -/
theorem resolved_values {expand : Expander} {f : String → Entries → Except Failure Value}
    (hpure : expand.Computes f) (locals : Entries) :
    (∀ globals s out t,
      (resolve globals (some expand) (.mapping locals)).run s = some (.ok out, t) →
        ∃ entries plain, flatten globals = .ok entries ∧ resolvePlain globals = .ok plain ∧
          Resolved f locals entries plain out) ∧
    (∀ globals globals' s s' out out' t t' entries entries' key entry,
      (resolve globals (some expand) (.mapping locals)).run s = some (.ok out, t) →
        (resolve globals' (some expand) (.mapping locals)).run s' = some (.ok out', t') →
        flatten globals = .ok entries → flatten globals' = .ok entries' →
        Entries.get? entries key = some entry → Entries.get? entries' key = some entry →
        (isJson entry = true → plainOnes entries = plainOnes entries') →
          Entries.get? out key = Entries.get? out' key) ∧
    (∀ globals e, e.IsOfGlobals → (resolvePlain globals = .error e ↔ Refused globals e) ∧
      (Refused globals e → ∀ s,
        (resolve globals (some expand) (.mapping locals)).run s = some (.error e, s))) ∧
    (∀ globals e, resolvePlain globals = .error e →
      ∀ s, (resolve globals (some expand) (.mapping locals)).run s = some (.error e, s)) ∧
    ∀ globals s e t,
      (resolve globals (some expand) (.mapping locals)).run s = some (.error e, t) →
        resolvePlain globals = .error e ∨
          ∃ entries plain, flatten globals = .ok entries ∧ resolvePlain globals = .ok plain ∧
            NotExpanded f (Entries.update plain locals) entries e := by
  refine ⟨?_, ?_, ?_, fun globals e h s => run_resolve_of_error h _ _ s, ?_⟩
  · intro globals s out t hrun
    obtain ⟨entries, plain, hentries, hplain, -, hout⟩ := resolved_of_run hpure hrun
    exact ⟨entries, plain, hentries, hplain, hout⟩
  · intro globals globals' s s' out out' t t' entries entries' key entry hrun hrun' hentries
      hentries' hentry hentry' hshared
    obtain ⟨es, _, hes, -, rfl, hout⟩ := resolved_of_run hpure hrun
    obtain ⟨es', _, hes', -, rfl, hout'⟩ := resolved_of_run hpure hrun'
    obtain rfl : es = entries := by simpa [hes] using hentries
    obtain rfl : es' = entries' := by simpa [hes'] using hentries'
    exact hout.get?_eq hout' hentry hentry' hshared
  · intro globals e he
    have hiff := @resolvePlain_eq_error_iff globals e he
    exact ⟨hiff, fun h s => run_resolve_of_error (hiff.mpr h) _ _ s⟩
  · intro globals s e t hrun
    cases hplain : resolvePlain globals with
    | error e' =>
        rw [run_resolve_of_error hplain] at hrun
        cases hrun
        exact .inl rfl
    | ok plain =>
        obtain ⟨entries, r, u, hentries, -, hrun', hr⟩ := run_resolve hpure hplain locals s
        obtain ⟨rfl, rfl⟩ : r = .error e ∧ u = t := by simpa [hrun'] using hrun
        exact .inr ⟨entries, plain, hentries, rfl, hr⟩

/-- An expander that gives the text and the variables. -/
def capture : Expander := fun text bindings => pure (.list [.text text, .mapping bindings])

/-- An entry with a format and a value. -/
def formatted (format : String) (value : Value) : Value :=
  .mapping [(.text "format", .text format), (.text "value", value)]

/-- Groups with an entry that is expanded before the entries that its text sees. -/
def groupsOfThree (expanded : Value) : Value :=
  .list [.mapping [(.text "g", .mapping [(.text "j", formatted "json" expanded),
    (.text "k", .int 1)])],
    .mapping [(.text "g", .mapping [(.text "k", formatted "text" (.list [.text "a", .text "b"])),
      (.text "m", formatted "VERBATIM" .null)])]]

/-- Groups with an entry whose format is not known. -/
def groupsUnknown : Value :=
  .list [.mapping [(.text "g", .mapping [(.text "x", formatted "csv" .null)])]]

/-- A key that two groups define keeps its first place and its last entry, and a local parameter
hides it from the text that is expanded but not from the result.  It has the same value where the
entry that is expanded is another one. -/
theorem resolved_values_captured :
    let s : Session := ⟨Host.blank, []⟩
    let locals : Entries := [(.text "g_m", .bool true)]
    let seen : Value := .mapping [(.text "g_k", .text "ab"), (.text "g_m", .bool true)]
    let out (text : String) : Entries := [(.text "g_j", .list [.text text, seen]),
      (.text "g_k", .text "ab"), (.text "g_m", .null)]
    let unknown := Failure.globalValue (.text "g_x") "unknown format 'csv'" none
    (resolve (groupsOfThree (.list [.bool true, .null])) (some capture) (.mapping locals)).run s =
        some (.ok (out "[true,null]"), s) ∧
      (∃ entries plain, flatten (groupsOfThree (.list [.bool true, .null])) = .ok entries ∧
        resolvePlain (groupsOfThree (.list [.bool true, .null])) = .ok plain ∧
        Resolved (fun text bindings => .ok (.list [.text text, .mapping bindings])) locals entries
          plain (out "[true,null]")) ∧
      (resolve (groupsOfThree .null) (some capture) (.mapping locals)).run s =
        some (.ok (out "null"), s) ∧
      Entries.get? (out "[true,null]") (.text "g_k") = Entries.get? (out "null") (.text "g_k") ∧
      Refused groupsUnknown unknown ∧
      (resolve groupsUnknown (some capture) (.mapping locals)).run s =
        some (.error unknown, s) := by
  intro s locals seen out unknown
  have hpure : capture.Computes fun text bindings =>
      .ok (.list [.text text, .mapping bindings]) := fun _ _ s => ⟨s, rfl⟩
  obtain ⟨hvalues, halike, hrefused, -⟩ := resolved_values hpure locals
  have hrun : (resolve (groupsOfThree (.list [.bool true, .null])) (some capture)
      (.mapping locals)).run s = some (.ok (out "[true,null]"), s) := by
    cbv
  have hrun' : (resolve (groupsOfThree .null) (some capture) (.mapping locals)).run s =
      some (.ok (out "null"), s) := by
    cbv
  have hentries (expanded : Value) : flatten (groupsOfThree expanded) =
      .ok [(.text "g_j", formatted "json" expanded),
        (.text "g_k", formatted "text" (.list [.text "a", .text "b"])),
        (.text "g_m", formatted "VERBATIM" .null)] := by
    cbv
  have hother : isJson (formatted "text" (.list [.text "a", .text "b"])) = false := by
    cbv
  have hsame := halike _ _ s s _ _ s s _ _ (.text "g_k") _ hrun hrun' (hentries _) (hentries _) rfl
    rfl fun h => absurd (hother.symm.trans h) (by decide)
  have hplain : resolvePlain groupsUnknown = .error unknown := by
    cbv
  obtain ⟨hiff, hresolve⟩ := hrefused groupsUnknown unknown ⟨_, _, _, rfl⟩
  have hunknown := hiff.mp hplain
  exact ⟨hrun, hvalues _ s _ s hrun, hrun', hsame, hunknown, hresolve hunknown s⟩

end Sigil.Globals
