/-
# Recomposed paths

A path falls into what precedes its last step, this step, and slashes.  Joined again, the first two
lead to the same place, since a normal form keeps only the slashes that a path begins with and the
steps that are not empty.  A step right below the root is the exception: the slash of the root and
the slash of the joint begin the path together, and a path that begins with two slashes keeps both.
-/
import Sigil.Library.Places
import Mathlib

namespace Sigil

namespace Text

variable {mark : Char}

lemma splitOnChar_ne_nil (mark : Char) (s : List Char) : splitOnChar mark s ≠ [] := by
  cases s with
  | nil => simp [splitOnChar]
  | cons c s =>
      rw [splitOnChar]
      split
      · simp
      · split <;> simp

lemma splitOnChar_mark (mark : Char) (s : List Char) :
    splitOnChar mark (mark :: s) = [] :: splitOnChar mark s := by
  obtain ⟨part, parts, h⟩ := List.exists_cons_of_ne_nil (splitOnChar_ne_nil mark s)
  simp [splitOnChar, h]

lemma splitOnChar_cons {c : Char} (hc : c ≠ mark) {s part : List Char} {parts : List (List Char)}
    (h : splitOnChar mark s = part :: parts) :
    splitOnChar mark (c :: s) = (c :: part) :: parts := by
  simp [splitOnChar, h, hc]

/-- A mark parts a text, whatever stands before and behind it. -/
lemma splitOnChar_append_mark (s t : List Char) :
    splitOnChar mark (s ++ mark :: t) = splitOnChar mark s ++ splitOnChar mark t := by
  induction s with
  | nil => exact splitOnChar_mark mark t
  | cons c s ih =>
      obtain ⟨part, parts, h⟩ := List.exists_cons_of_ne_nil (splitOnChar_ne_nil mark s)
      rw [h, List.cons_append] at ih
      by_cases hc : c = mark
      · subst hc
        rw [List.cons_append, splitOnChar_mark, splitOnChar_mark, ih, h]
        rfl
      · rw [List.cons_append, splitOnChar_cons hc ih, splitOnChar_cons hc h]
        rfl

lemma splitOnChar_of_not_mem {s : List Char} (h : mark ∉ s) : splitOnChar mark s = [s] := by
  induction s with
  | nil => rfl
  | cons c s ih =>
      obtain ⟨hc, hs⟩ := List.ne_and_not_mem_of_not_mem_cons h
      exact splitOnChar_cons hc.symm (ih hs)

end Text

namespace Path

/-! ### Steps -/

/-- The steps of a path that are not empty. -/
def steps (s : List Char) : List (List Char) := (Text.splitOnChar '/' s).filter (!·.isEmpty)

lemma steps_append (s t : List Char) : steps (s ++ '/' :: t) = steps s ++ steps t := by
  rw [steps, Text.splitOnChar_append_mark, List.filter_append, steps, steps]

lemma steps_of_not_mem {s : List Char} (hs : '/' ∉ s) (hne : s ≠ []) : steps s = [s] := by
  simp [steps, Text.splitOnChar_of_not_mem hs, hne]

/-- Slashes at the end lead nowhere. -/
lemma steps_append_slashes (s : List Char) {slashes : List Char} (h : ∀ c ∈ slashes, c = '/') :
    steps (s ++ slashes) = steps s := by
  induction slashes generalizing s with
  | nil => rw [List.append_nil]
  | cons c slashes ih =>
      obtain ⟨rfl, hslashes⟩ := List.forall_mem_cons.mp h
      have hnil : steps slashes = [] := ih [] hslashes
      rw [steps_append, hnil, List.append_nil]

/-! ### Normal forms -/

/-- The normal form of a path that begins with these slashes and takes these steps. -/
def normalOf (root : List Char) (steps : List (List Char)) : List Char :=
  let out := root ++ ['/'].intercalate (steps.foldl (addStep (!root.isEmpty)) []).reverse
  if out.isEmpty then ['.'] else out

/-- The normal form depends on the slashes at the start and on the steps that are not empty. -/
lemma normal_eq (s : List Char) : normal s = normalOf (rootSlashes s) (steps s) := by
  have hskip (rooted : Bool) (taken : List (List Char)) (step : List Char) :
      (if !step.isEmpty then addStep rooted taken step else taken) = addStep rooted taken step := by
    cases step <;> simp [addStep]
  simp only [normal, normalOf, steps, List.foldl_filter, hskip]

/-- A second slash at the start stays. -/
lemma normalOf_two_slashes (steps : List (List Char)) :
    normalOf ['/', '/'] steps = '/' :: normalOf ['/'] steps := by
  simp [normalOf]

/-- What follows a step does not matter for the slashes at the start. -/
lemma rootSlashes_append {s : List Char} (h : ∃ c ∈ s, c ≠ '/') (t : List Char) :
    rootSlashes (s ++ t) = rootSlashes s := by
  have htake : (s ++ t).takeWhile (· == '/') = s.takeWhile (· == '/') := by
    rw [List.takeWhile_append, if_neg]
    intro hlength
    have hself := (List.takeWhile_prefix (· == '/')).eq_of_length hlength
    obtain ⟨c, hc, hne⟩ := h
    exact hne (by simpa using List.takeWhile_eq_self_iff.mp hself c hc)
  rw [rootSlashes, rootSlashes, htake]

/-! ### The parts of a path -/

/-- A path with a step is what precedes its last step, this step, and slashes. -/
structure Anatomy (s front last slashes : List Char) : Prop where
  /-- The parts make up the path. -/
  eq : s = front ++ last ++ slashes
  /-- The last step is parted from what precedes it. -/
  front : front = [] ∨ ∃ t, front = t ++ ['/']
  /-- The last step has characters. -/
  last_ne_nil : last ≠ []
  /-- It is one step. -/
  last : '/' ∉ last
  /-- Only slashes follow it. -/
  slashes : ∀ c ∈ slashes, c = '/'

lemma base_eq (s : List Char) : base s = s.rtakeWhile (· != '/') := rfl

lemma not_mem_base (s : List Char) : '/' ∉ base s := fun h => by
  simpa using List.mem_rtakeWhile_imp h

/-- The directory of a path without slashes at its end. -/
def parent (front : List Char) : List Char :=
  if front.all (· == '/') then front else dropSlashes front

lemma exists_anatomy {s : List Char} (h : ∃ c ∈ s, c ≠ '/') :
    ∃ front, Anatomy s front (part s .base) (s.rtakeWhile (· == '/')) ∧
      part s .directory = parent front := by
  have hbody : dropSlashes s ≠ [] := by
    intro hnil
    obtain ⟨c, hc, hne⟩ := h
    exact hne (by simpa using List.rdropWhile_eq_nil_iff.mp hnil c hc)
  have hsplit : (dropSlashes s).rdropWhile (· != '/') ++ base (dropSlashes s) = dropSlashes s :=
    List.rdropWhile_append_rtakeWhile
  refine ⟨(dropSlashes s).rdropWhile (· != '/'), ⟨?_, ?_, ?_, not_mem_base _, fun c hc => ?_⟩, ?_⟩
  · rw [part, hsplit]
    exact List.rdropWhile_append_rtakeWhile.symm
  · rcases List.eq_nil_or_concat' ((dropSlashes s).rdropWhile (· != '/')) with hnil | ⟨t, c, ht⟩
    · exact .inl hnil
    · have hlast := List.rdropWhile_last_not (fun c => c != '/') (dropSlashes s) (by simp [ht])
      have hc : c = '/' := by simpa [ht] using hlast
      exact .inr ⟨t, hc ▸ ht⟩
  · rw [part, base_eq, ne_eq, List.rtakeWhile_eq_nil_iff, not_forall]
    refine ⟨hbody, ?_⟩
    have hlast : ¬ ((dropSlashes s).getLast hbody == '/') :=
      List.rdropWhile_last_not (· == '/') s hbody
    simpa using hlast
  · simpa using List.mem_rtakeWhile_imp hc
  · have hempty : ¬ (dropSlashes s).isEmpty := by simpa using hbody
    rw [part, if_neg hempty]
    rfl

lemma Anatomy.steps_eq {s front last slashes : List Char} (h : Anatomy s front last slashes) :
    steps s = steps front ++ [last] := by
  have hlast := steps_of_not_mem h.last h.last_ne_nil
  rw [h.eq, steps_append_slashes _ h.slashes]
  rcases h.front with rfl | ⟨t, rfl⟩
  · exact hlast
  · rw [List.append_assoc, List.singleton_append, steps_append, steps_append, hlast]
    simp [steps, Text.splitOnChar]

lemma parent_append_slashes (front : List Char) :
    ∃ slashes, front = parent front ++ slashes ∧ ∀ c ∈ slashes, c = '/' := by
  rw [parent]
  split
  · exact ⟨[], by simp, by simp⟩
  · exact ⟨front.rtakeWhile (· == '/'), List.rdropWhile_append_rtakeWhile.symm,
      fun c hc => by simpa using List.mem_rtakeWhile_imp hc⟩

/-- A directory keeps the steps that are not empty. -/
lemma exists_mem_parent {front : List Char} (h : ∃ c ∈ front, c ≠ '/') :
    ∃ c ∈ parent front, c ≠ '/' := by
  obtain ⟨more, hmore, hslashes⟩ := parent_append_slashes front
  obtain ⟨c, hc, hne⟩ := h
  rw [hmore] at hc
  exact ⟨c, (List.mem_append.mp hc).resolve_right fun hc => hne (hslashes c hc), hne⟩

/-- Below a directory that is not the root, the joined path has the normal form of the whole. -/
lemma Anatomy.normal_joined {s front last slashes : List Char} (h : Anatomy s front last slashes)
    (hfront : ∃ c ∈ front, c ≠ '/') : normal (parent front ++ '/' :: last) = normal s := by
  obtain ⟨more, hmore, hslashes⟩ := parent_append_slashes front
  have hparent := exists_mem_parent hfront
  have hsteps : steps (parent front ++ '/' :: last) = steps s := by
    rw [steps_append, steps_of_not_mem h.last h.last_ne_nil, h.steps_eq,
      ← steps_append_slashes (parent front) hslashes, ← hmore]
  have hs : s = parent front ++ (more ++ (last ++ slashes)) := by
    rw [← List.append_assoc, ← hmore, ← List.append_assoc]
    exact h.eq
  have hroot : rootSlashes (parent front ++ '/' :: last) = rootSlashes s := by
    rw [hs, rootSlashes_append hparent, rootSlashes_append hparent]
  rw [normal_eq, normal_eq, hsteps, hroot]

lemma Anatomy.exists_mem_last {s front last slashes : List Char}
    (h : Anatomy s front last slashes) : ∃ c ∈ last, c ≠ '/' := by
  obtain ⟨c, hc⟩ := List.exists_mem_of_ne_nil last h.last_ne_nil
  exact ⟨c, hc, fun heq => h.last (heq ▸ hc)⟩

/-- A single step has the normal form of the whole path. -/
lemma Anatomy.normal_last {s last slashes : List Char} (h : Anatomy s [] last slashes) :
    normal last = normal s := by
  have hs : s = last ++ slashes := h.eq
  have hsteps : steps last = steps s := by
    rw [h.steps_eq, steps_of_not_mem h.last h.last_ne_nil]
    rfl
  rw [normal_eq, normal_eq, hsteps, hs, rootSlashes_append h.exists_mem_last]

/-- A step right below the root comes to stand behind two slashes. -/
lemma Anatomy.normal_below_root {s last slashes : List Char} (h : Anatomy s ['/'] last slashes) :
    normal ('/' :: '/' :: last) = '/' :: normal s := by
  have hs : s = ('/' :: last) ++ slashes := h.eq
  have hstart : last.takeWhile (· == '/') = [] := by
    obtain ⟨c, rest, rfl⟩ := List.exists_cons_of_ne_nil h.last_ne_nil
    have hc : c ≠ '/' := fun heq => h.last (heq ▸ List.mem_cons_self)
    exact List.takeWhile_cons_of_neg (by simpa using hc)
  have hstep : ∃ c ∈ '/' :: last, c ≠ '/' := by
    obtain ⟨c, hc, hne⟩ := h.exists_mem_last
    exact ⟨c, List.mem_cons_of_mem _ hc, hne⟩
  have hsteps : steps ('/' :: '/' :: last) = steps s := by
    have htwo : steps ('/' :: '/' :: last) = steps ['/'] ++ steps last :=
      steps_append ['/'] last
    rw [htwo, h.steps_eq, steps_of_not_mem h.last h.last_ne_nil]
  have htwo : rootSlashes ('/' :: '/' :: last) = ['/', '/'] := by
    simp [rootSlashes, hstart]
  have hone : rootSlashes s = ['/'] := by
    rw [hs, rootSlashes_append hstep]
    simp [rootSlashes, hstart]
  rw [normal_eq, normal_eq, hsteps, htwo, hone, normalOf_two_slashes]

/-- Joined again, the directory and the last step have the normal form of the path, with one slash
more right below the root. -/
lemma Anatomy.normal_join {s front last slashes : List Char} (h : Anatomy s front last slashes)
    (htwo : ¬ ['/', '/'] <+: s) :
    normal (if parent front = [] then last else parent front ++ '/' :: last) =
      if parent front = ['/'] then '/' :: normal s else normal s := by
  by_cases hfront : ∃ c ∈ front, c ≠ '/'
  · obtain ⟨c, hc, hne⟩ := exists_mem_parent hfront
    have hnil : parent front ≠ [] := List.ne_nil_of_mem hc
    have hroot : parent front ≠ ['/'] := fun heq => hne (by simpa [heq] using hc)
    rw [if_neg hnil, if_neg hroot, h.normal_joined hfront]
  · have hslashes : ∀ c ∈ front, c = '/' := by simpa using hfront
    have hparent : parent front = front := if_pos (by simpa using hslashes)
    match front, hslashes with
    | [], _ =>
        rw [hparent, if_pos rfl, if_neg (by simp), h.normal_last]
    | [c], hc =>
        obtain rfl : c = '/' := by simpa using hc
        rw [hparent, if_neg (by simp), if_pos rfl]
        exact h.normal_below_root
    | c :: d :: rest, hcs =>
        obtain ⟨rfl, rfl, -⟩ : c = '/' ∧ d = '/' ∧ _ := by simpa using hcs
        exact absurd ⟨rest ++ (last ++ slashes), by simp [h.eq]⟩ htwo

/-- The name and the extension make up the step. -/
lemma splitExtension_append (s : List Char) : (splitExtension s).1 ++ (splitExtension s).2 = s := by
  rw [splitExtension]
  split
  · next h =>
      set tail := s.reverse.takeWhile (· != '.')
      have hsplit : tail ++ s.reverse.dropWhile (· != '.') = s.reverse :=
        List.takeWhile_append_dropWhile
      -- before the characters behind the last dot stands the dot
      have hrest : s.reverse.dropWhile (· != '.') ≠ [] := by
        intro hnil
        have hlength := congrArg List.length hsplit
        simp only [hnil, List.append_nil, List.length_reverse] at hlength
        simp [hlength] at h
      have hdot := List.head_dropWhile_not (· != '.') hrest
      obtain ⟨c, rest, hcons⟩ := List.exists_cons_of_ne_nil hrest
      obtain rfl : c = '.' := by simpa [hcons] using hdot
      rw [hcons] at hsplit
      have hstem : s.reverse.drop (tail.length + 1) = rest := by
        rw [← hsplit, List.drop_length_add_append]
        rfl
      rw [hstem]
      simpa using congrArg List.reverse hsplit
  · exact List.append_nil s

end Path

namespace Library

/-- A part of a path under its name. -/
lemma pathPart_eq {s : String} (hs : s ≠ "") {name : String} {p : Path.Part}
    (h : (name, p) ∈ Path.partNames) :
    pathPart (.text s) (.text name) = .ok (textValue (Path.part s.toList p)) := by
  have htruthy : (Value.text s).isTruthy := by simpa [Value.isTruthy] using hs
  have hchars : chars (.text s) = .ok s.toList := rfl
  obtain ⟨hname, hlookup⟩ : partName (.text name) = .ok name ∧
      Path.partNames.lookup name = some p := by
    simp only [Path.partNames, List.mem_cons, List.not_mem_nil, or_false, Prod.mk.injEq] at h
    rcases h with ⟨rfl, rfl⟩ | ⟨rfl, rfl⟩ | ⟨rfl, rfl⟩ | ⟨rfl, rfl⟩ | ⟨rfl, rfl⟩ <;>
      exact ⟨by cbv, by cbv⟩
  rw [pathPart, if_pos htruthy, hchars]
  simp only [bind, Except.bind, hname, hlookup, pure, Except.pure]

lemma isBlank_textValue (s : List Char) : (textValue s).isBlank = s.isEmpty := by
  cases s <;> simp [textValue, Value.isBlank]

lemma mapM_chars_textValue (parts : List (List Char)) :
    (parts.map textValue).mapM chars = .ok parts := by
  induction parts with
  | nil => rfl
  | cons part parts ih =>
      have hchars : chars (textValue part) = .ok part := congrArg Except.ok String.toList_ofList
      rw [List.map_cons, List.mapM_cons, hchars, ih]
      rfl

/-- Texts are joined with slashes between those that are not empty. -/
lemma pathJoin_texts (parts : List (List Char)) :
    pathJoin (parts.map textValue) =
      .ok (textValue (Path.normal (['/'].intercalate (parts.filter (!·.isEmpty))))) := by
  have hkept : (parts.map textValue).filter (!·.isBlank) =
      (parts.filter (!·.isEmpty)).map textValue := by
    rw [List.filter_map]
    exact congrArg _ (List.filter_congr fun part _ => by simp [isBlank_textValue])
  rw [pathJoin, hkept, mapM_chars_textValue]
  rfl

lemma pathJoin_pair (dir : List Char) {last : List Char} (h : last ≠ []) :
    pathJoin [textValue dir, textValue last] = .ok (textValue (Path.normal
      (if dir = [] then last else dir ++ '/' :: last))) := by
  have hlast : (!last.isEmpty) = true := by simpa using h
  refine (pathJoin_texts [dir, last]).trans ?_
  split
  · next hdir => simp [hdir, h, List.intercalate_singleton]
  · next hdir => simp [hdir, h, List.intercalate_cons_cons, List.intercalate_singleton]

lemma textValue_eq (t : String) : textValue t.toList = .text t := by
  rw [textValue, String.ofList_toList]

/-- **Recomposed paths.**  The name and the extension of a path make up its last step, in which
there is no slash.  If the path has a step and does not begin with two slashes, its directory and
its last step are joined to its normal form, except right below the root, where the joined path
begins with one slash more. -/
theorem path_recomposed (s : String) :
    ∃ base name ext, pathPart (.text s) (.text "base") = .ok (.text base) ∧
      pathPart (.text s) (.text "name") = .ok (.text name) ∧
      pathPart (.text s) (.text "ext") = .ok (.text ext) ∧ name ++ ext = base ∧
      '/' ∉ base.toList ∧
      ((∃ c ∈ s.toList, c ≠ '/') → ¬ ['/', '/'] <+: s.toList →
        ∃ dir joined, pathPart (.text s) (.text "dir") = .ok (.text dir) ∧
          pathJoin [.text s] = .ok (.text joined) ∧
          pathJoin [.text dir, .text base] =
            .ok (.text (if dir = "/" then "/" ++ joined else joined))) := by
  by_cases hs : s = ""
  · subst hs
    exact ⟨"", "", "", rfl, rfl, rfl, rfl, by simp, fun ⟨c, hc, _⟩ => by simp at hc⟩
  have hpart {name : String} {p : Path.Part} (h : (name, p) ∈ Path.partNames) :=
    pathPart_eq hs h
  refine ⟨_, _, _, hpart (p := .base) (by simp [Path.partNames]),
    hpart (p := .name) (by simp [Path.partNames]),
    hpart (p := .extension) (by simp [Path.partNames]), ?_, ?_, fun hstep htwo => ?_⟩
  · rw [← String.ofList_append]
    exact congrArg String.ofList (Path.splitExtension_append _)
  · rw [String.toList_ofList]
    exact Path.not_mem_base _
  obtain ⟨front, hanatomy, hdir⟩ := Path.exists_anatomy hstep
  refine ⟨_, String.ofList (Path.normal s.toList),
    hpart (p := .directory) (by simp [Path.partNames]), ?_, ?_⟩
  · rw [← textValue_eq]
    refine (pathJoin_texts [s.toList]).trans ?_
    have hne : s.toList ≠ [] := by simpa using hs
    simp [hne, textValue]
  · have hjoin := pathJoin_pair (Path.part s.toList .directory) hanatomy.last_ne_nil
    rw [hdir, hanatomy.normal_join htwo, ← hdir] at hjoin
    rw [← textValue, ← textValue, hjoin, textValue, apply_ite String.ofList]
    have hroot : String.ofList (Path.part s.toList .directory) = "/" ↔
        Path.part s.toList .directory = ['/'] := by
      rw [← String.toList_inj, String.toList_ofList]
      rfl
    have hcons : String.ofList ('/' :: Path.normal s.toList) =
        "/" ++ String.ofList (Path.normal s.toList) := @String.ofList_append ['/'] _
    simp only [hroot, hcons]

/-- Dots that lead upwards, repeated slashes and slashes at the end. -/
theorem path_recomposed_upwards :
    let s := "a//../b.c.d//"
    pathPart (.text s) (.text "base") = .ok (.text "b.c.d") ∧
      pathPart (.text s) (.text "name") = .ok (.text "b.c") ∧
      pathPart (.text s) (.text "ext") = .ok (.text ".d") ∧
      pathPart (.text s) (.text "dir") = .ok (.text "a//..") ∧
      pathJoin [.text s] = .ok (.text "b.c.d") ∧
      pathJoin [.text "a//..", .text "b.c.d"] = .ok (.text "b.c.d") := by
  intro s
  have hbase : pathPart (.text s) (.text "base") = .ok (.text "b.c.d") := by cbv
  have hname : pathPart (.text s) (.text "name") = .ok (.text "b.c") := by cbv
  have hext : pathPart (.text s) (.text "ext") = .ok (.text ".d") := by cbv
  have hdir : pathPart (.text s) (.text "dir") = .ok (.text "a//..") := by cbv
  have hwhole : pathJoin [.text s] = .ok (.text "b.c.d") := by cbv
  obtain ⟨base, -, -, hbase', -, -, -, -, hjoin⟩ := path_recomposed s
  obtain ⟨dir, joined, hdir', hwhole', hparts⟩ := hjoin ⟨'a', by decide, by decide⟩ (by decide)
  obtain rfl : base = "b.c.d" := by simpa [hbase] using hbase'.symm
  obtain rfl : dir = "a//.." := by simpa [hdir] using hdir'.symm
  obtain rfl : joined = "b.c.d" := by simpa [hwhole] using hwhole'.symm
  exact ⟨hbase, hname, hext, hdir, hwhole, hparts⟩

/-- A step right below the root: joined to the root it stands behind two slashes. -/
theorem root_slash_is_doubled :
    pathPart (.text "/a") (.text "dir") = .ok (.text "/") ∧
      pathPart (.text "/a") (.text "base") = .ok (.text "a") ∧
      pathJoin [.text "/a"] = .ok (.text "/a") ∧
      pathJoin [.text "/", .text "a"] = .ok (.text "//a") ∧
      ¬ ∀ s : String, (∃ c ∈ s.toList, c ≠ '/') → ¬ ['/', '/'] <+: s.toList →
        ∀ dir base, pathPart (.text s) (.text "dir") = .ok dir →
          pathPart (.text s) (.text "base") = .ok base →
          pathJoin [dir, base] = pathJoin [.text s] := by
  have hdir : pathPart (.text "/a") (.text "dir") = .ok (.text "/") := by cbv
  have hbase : pathPart (.text "/a") (.text "base") = .ok (.text "a") := by cbv
  have hwhole : pathJoin [.text "/a"] = .ok (.text "/a") := by cbv
  have hparts : pathJoin [.text "/", .text "a"] = .ok (.text "//a") := by cbv
  refine ⟨hdir, hbase, hwhole, hparts, fun hall => ?_⟩
  have hsame := hall "/a" ⟨'a', by decide, by decide⟩ (by decide) _ _ hdir hbase
  rw [hparts, hwhole, Except.ok.injEq, Value.text.injEq] at hsame
  exact absurd hsame (by decide)

end Library

end Sigil
