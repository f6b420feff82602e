import Mathlib.Data.List.Forall2
import Mathlib.Data.List.TakeDrop
import ProfilePicker.Settings.Basic

/-!
# Layers laid over each other

What a setting is once all layers are laid over each other. A key of a layer leads to a setting by
the first of its steps, and a text takes the place of whatever was there. So a setting has the text
of the last layer that gives it one, and a layer that does not speak of a setting leaves it as it
is, whatever it says of the others.
-/
namespace ProfilePicker.Settings

variable {key name : Text} {layer : Entries} {below : Value}

/-! ## Changing a table -/

/-- The first entry of a key, or one further on. -/
theorem Entries.get?_cons (e : Text × Value) (rest : Entries) (key : Text) :
    Entries.get? (e :: rest) key = if e.1 = key then some e.2 else rest.get? key := by
  by_cases here : e.1 = key <;> simp [get?, here]

/-- Changing the entry of a key leaves all other entries. -/
theorem Entries.get?_change (key name : Text) (f : Value → Value) (entries : Entries) :
    (Entries.change name f entries).get? key =
      if name = key then some (f ((entries.get? key).getD .absent)) else entries.get? key := by
  induction entries with
  | nil => by_cases same : name = key <;> simp [Entries.change, get?, same]
  | cons e rest ih =>
    by_cases changed : e.1 = name
    · simp only [Entries.change, if_pos changed, get?_cons]
      by_cases same : name = key <;> simp [changed, same]
    · simp only [Entries.change, if_neg changed, get?_cons, ih]
      by_cases here : e.1 = key
      · have other : name ≠ key := fun same => changed (here.trans same.symm)
        simp [here, other]
      · simp [here]

/-- A step into a table leaves all other entries. -/
theorem Value.get?_overlayAt (below laid : Value) (steps : List Step) :
    (below.overlayAt laid (.key name :: steps)).entries.get? key =
      if name = key then some (((below.entries.get? key).getD .absent).overlayAt laid steps)
      else below.entries.get? key :=
  Entries.get?_change key name _ _

/-! ## Keys -/

/-- A key of a layer leads to the setting of a key, or to something inside it. -/
def Concerns (key written : Text) : Prop := (stepsOf written).head? = some (.key key)

instance (key written : Text) : Decidable (Concerns key written) :=
  inferInstanceAs (Decidable (_ = _))

/-- A key that stands for its own setting. -/
def Plain (key : Text) : Prop := stepsOf key = [.key key]

/-- A key that stands for its own setting concerns it. -/
theorem Plain.concerns (plain : Plain key) : Concerns key key := by
  rw [Concerns, plain, List.head?_cons]

/-- The first step of a key leads to a setting. -/
theorem exists_stepsOf (written : Text) : ∃ name steps, stepsOf written = .key name :: steps := by
  rw [stepsOf]
  split
  · exact ⟨_, _, rfl⟩
  · split <;> exact ⟨_, _, rfl⟩

/-- Every part of a written path behind the first name is a step of its own. -/
theorem eq_nil_of_stepsAfter? {fuel : Nat} {rest : Text} (ends : stepsAfter? fuel rest = some []) :
    rest = [] := by
  unfold stepsAfter? at ends
  split at ends
  · rfl
  · cases ends
  · split at ends
    · cases ends
    · simp at ends
  · split at ends
    · simp at ends
    · cases ends
  · cases ends

/-- Only a key itself leads to its setting and no further. -/
theorem eq_of_stepsOf {written : Text} (ends : stepsOf written = [.key key]) : written = key := by
  rw [stepsOf] at ends
  split at ends
  · cases ends
    rfl
  · rename_i name rest _ cut
    split at ends
    · rename_i steps after
      cases ends
      rw [List.span_eq_takeWhile_dropWhile] at cut
      obtain ⟨front, back⟩ := Prod.mk.inj cut
      rw [eq_nil_of_stepsAfter? after] at back
      have whole : written.takeWhile isNameChar ++ written.dropWhile isNameChar = written :=
        List.takeWhile_append_dropWhile
      rwa [front, back, List.append_nil, eq_comm] at whole
    · cases ends
      rfl

/-- The steps of a key that concerns a setting begin there. -/
theorem Concerns.exists_steps {written : Text} (concerns : Concerns key written) :
    ∃ steps, stepsOf written = .key key :: steps := by
  obtain ⟨name, steps, leads⟩ := exists_stepsOf written
  rw [Concerns, leads, List.head?_cons, Option.some.injEq, Step.key.injEq] at concerns
  exact ⟨steps, concerns ▸ leads⟩

/-- A key that does not concern a setting leads elsewhere. -/
theorem get?_overlayAt_of_not_concerns {written : Text} (laid : Value)
    (foreign : ¬Concerns key written) :
    (below.overlayAt laid (stepsOf written)).entries.get? key = below.entries.get? key := by
  obtain ⟨name, steps, leads⟩ := exists_stepsOf written
  have other : name ≠ key := by
    rintro rfl
    exact foreign (by rw [Concerns, leads, List.head?_cons])
  rw [leads, Value.get?_overlayAt, if_neg other]

/-! ## One layer -/

/-- A layer says nothing about a setting, or it says a text: its last entry that concerns the
setting gives it, whole. -/
inductive Says (key : Text) : Entries → Option Text → Prop
  /-- No entry concerns the setting. -/
  | nothing {layer : Entries} (silent : ∀ e ∈ layer, ¬Concerns key e.1) : Says key layer none
  /-- An entry gives the text, and none behind it concerns the setting. -/
  | text (before : Entries) {after : Entries} {shown : Text}
      (silent : ∀ e ∈ after, ¬Concerns key e.1) :
      Says key (before ++ (key, .scalar shown) :: after) (some shown)

/-- What a layer says about a setting, worked out from its end. It may be neither a text nor
nothing. -/
def said? (key : Text) (layer : Entries) : Option (Option Text) :=
  match layer.reverse.find? (Concerns key ·.1) with
  | none => some none
  | some (written, .scalar shown) => if written = key then some (some shown) else none
  | some _ => none

/-- What is worked out is what the layer says. -/
theorem says_of_said? {said : Option Text} (answers : said? key layer = some said) :
    Says key layer said := by
  unfold said? at answers
  split at answers
  · rename_i silent
    cases answers
    exact .nothing (by simpa using silent)
  · rename_i written shown found
    obtain ⟨-, behind, front, whole, silent⟩ := List.find?_eq_some_iff_append.1 found
    split at answers
    · rename_i same
      subst same
      cases answers
      have cut : layer = front.reverse ++ (written, .scalar shown) :: behind.reverse := by
        rw [← List.reverse_reverse layer, whole]
        simp
      rw [cut]
      exact .text _ (by simpa using silent)
    · cases answers
  · cases answers

/-- An entry of a layer, and the entries behind it. -/
theorem Value.overlayLayer_cons (below laid : Value) (written : Text) (rest : Entries) :
    below.overlayLayer ((written, laid) :: rest) =
      (below.overlayAt laid (stepsOf written)).overlayLayer rest := rfl

/-- Two parts of a layer, one after the other. -/
theorem Value.overlayLayer_append (below : Value) (front back : Entries) :
    below.overlayLayer (front ++ back) = (below.overlayLayer front).overlayLayer back :=
  List.foldl_append

/-- A layer that does not concern a setting leaves it. -/
theorem get?_overlayLayer_of_silent (below : Value) (silent : ∀ e ∈ layer, ¬Concerns key e.1) :
    (below.overlayLayer layer).entries.get? key = below.entries.get? key := by
  induction layer generalizing below with
  | nil => rfl
  | cons e layer ih =>
    obtain ⟨foreign, silent⟩ := List.forall_mem_cons.1 silent
    exact (ih _ silent).trans (get?_overlayAt_of_not_concerns e.2 foreign)

/-- The last entry that concerns a setting is laid over what was there. -/
theorem get?_overlayLayer_last (below laid : Value) (before : Entries) {after : Entries}
    {written : Text} {steps : List Step} (leads : stepsOf written = .key key :: steps)
    (silent : ∀ e ∈ after, ¬Concerns key e.1) : ∃ old : Value,
    (below.overlayLayer (before ++ (written, laid) :: after)).entries.get? key =
      some (old.overlayAt laid steps) := by
  refine ⟨((below.overlayLayer before).entries.get? key).getD .absent, ?_⟩
  rw [Value.overlayLayer_append, Value.overlayLayer_cons, get?_overlayLayer_of_silent _ silent,
    leads, Value.get?_overlayAt, if_pos rfl]

/-- A text of a layer takes the place of what was there. -/
theorem Says.get?_overlayLayer {said : Option Text} (plain : Plain key)
    (speaks : Says key layer said) (below : Value) :
    (below.overlayLayer layer).entries.get? key =
      (said.map .scalar).or (below.entries.get? key) := by
  cases speaks with
  | nothing silent => exact get?_overlayLayer_of_silent below silent
  | text before silent =>
    obtain ⟨old, laid⟩ := get?_overlayLayer_last below (.scalar _) before plain silent
    exact laid

/-- Either no entry of a layer concerns a setting, or there is a last one. -/
theorem silent_or_exists_last (key : Text) (layer : Entries) :
    (∀ e ∈ layer, ¬Concerns key e.1) ∨ ∃ before e after, layer = before ++ e :: after ∧
      Concerns key e.1 ∧ ∀ e ∈ after, ¬Concerns key e.1 := by
  induction layer with
  | nil => exact .inl (List.forall_mem_nil _)
  | cons e layer ih =>
    rcases ih with silent | ⟨before, last, after, rfl, concerns, silent⟩
    · by_cases concerns : Concerns key e.1
      · exact .inr ⟨[], e, layer, rfl, concerns, silent⟩
      · exact .inl (List.forall_mem_cons.2 ⟨concerns, silent⟩)
    · exact .inr ⟨e :: before, last, after, rfl, concerns, silent⟩

/-! ## All layers -/

/-- Of all layers, the last one that says something about a setting counts. -/
theorem get?_overlayLayers {layers : List Entries} {texts : List (Option Text)} (plain : Plain key)
    (speaks : List.Forall₂ (Says key) layers texts) (below : Value) :
    (layers.foldl Value.overlayLayer below).entries.get? key =
      ((texts.reverse.findSome? id).map .scalar).or (below.entries.get? key) := by
  induction speaks generalizing below with
  | nil => rfl
  | @cons layer said layers texts first _ ih =>
    rw [List.foldl_cons, ih, first.get?_overlayLayer plain, List.reverse_cons,
      List.findSome?_append]
    cases texts.reverse.findSome? id <;> cases said <;> rfl

/-- A setting with a text, or with nothing, can be read. -/
theorem textAt_of_get? {entries : Entries} {said : Option Text}
    (holds : entries.get? key = said.map .scalar) : textAt entries key = .ok said := by
  rw [textAt, holds]
  cases said <;> rfl

end ProfilePicker.Settings
