import ProfilePicker.Proofs.Discovery
import ProfilePicker.Proofs.PickedProfiles
import ProfilePicker.Script

/-!
# Naming a profile and choosing it

A profile can be named from the start or chosen from the list of those that are known. The first way
compares the name in small letters, the second counts entries behind the one for a new profile. They
lead to the same profiles, and a run that chooses an entry goes on like one that names it.
-/
namespace ProfilePicker

open Ini (Document)

/-! ## Catalogs -/

/-- The ways to come by a catalog. -/
inductive Catalog.Built : Catalog → Prop
  /-- It is discovered in both files. -/
  | discovered {l : Locations} {prompt : Prompt} {s s' : Session} {catalog : Catalog}
      (done : (discover l).outcome prompt s = (.ok catalog, s')) : Built catalog
  /-- It is made of some names. -/
  | collected (names : List Text) : Built (.ofNames names)

/-- However a catalog is come by, its names are their own in small letters. -/
theorem Catalog.Built.toLower_of_mem {catalog : Catalog} (built : Built catalog) {name : Text}
    (known : name ∈ catalog.names) : name.toLower = name := by
  cases built with
  | @discovered l prompt s s' _ done =>
    obtain ⟨log, ran⟩ := outcome_discover l prompt s
    have taken : Catalog.taken l s.disk = .ok catalog := congrArg Prod.fst (ran.symm.trans done)
    obtain ⟨keys, settings, -, -, rfl⟩ := exists_of_taken taken
    exact Catalog.toLower_of_mem known
  | collected names => exact Catalog.toLower_of_mem known

/-! ## Ends that do not depend on what was asked before -/

/-- Two ends with the same result, the same disk and the same questions since two different
starts. -/
structure SameEnds {α : Type} (before before' : List Question)
    (first second : Except Fault α × Session) : Prop where
  /-- The results are the same. -/
  result : first.1 = second.1
  /-- So are the disks. -/
  disk : first.2.disk = second.2.disk
  /-- The same was asked since. -/
  asked : ∃ more, first.2.asked = before ++ more ∧ second.2.asked = before' ++ more

section Ends

variable {prompt other : Prompt} {s t : Session}

/-- A region is resolved in the same way where the disk and the reply are the same. -/
theorem Region.resolve_sameEnds (store : Store) (suggested profile : Text) (disk : s.disk = t.disk)
    (replies : ∀ suggestion : Text, prompt.answer s.asked (.input "Region" suggestion) =
      other.answer t.asked (.input "Region" suggestion)) :
    SameEnds s.asked t.asked ((resolve store suggested profile).outcome prompt s)
      ((resolve store suggested profile).outcome other t) := by
  obtain ⟨log, loaded⟩ := store.outcome_loadOrEmpty s .willing
  obtain ⟨log', loaded'⟩ := store.outcome_loadOrEmpty t .willing
  rw [← disk] at loaded'
  rw [resolve_eq, Flow.outcome_bind, Flow.outcome_bind, loaded, loaded']
  cases store.taken s.disk with
  | error fault => exact ⟨rfl, rfl, [], by simp⟩
  | ok d =>
    dsimp only
    rw [Flow.outcome_bind, Flow.outcome_bind, Flow.outcome_ask, Flow.outcome_ask]
    have reply : prompt.answer s.asked (question d suggested profile) =
        other.answer t.asked (question d suggested profile) := replies _
    rw [reply]
    cases other.answer t.asked (question d suggested profile) with
    | error fault => exact ⟨rfl, rfl, _, rfl, rfl⟩
    | ok typed =>
      dsimp only
      split
      · exact ⟨rfl, rfl, _, rfl, rfl⟩
      · obtain ⟨_, stored⟩ := outcome_storing store profile d (Text.trim typed) prompt
          ⟨s.disk, s.asked ++ [question d suggested profile], log⟩ .willing
        obtain ⟨_, stored'⟩ := outcome_storing store profile d (Text.trim typed) other
          ⟨s.disk, t.asked ++ [question d suggested profile], log'⟩ .willing
        rw [stored, stored']
        exact ⟨rfl, rfl, _, rfl, rfl⟩

/-- A region is settled on in the same way, too. -/
theorem Selection.settleRegion_sameEnds (l : Locations) (suggested profile : Text)
    (wish : Option Text) (disk : s.disk = t.disk)
    (replies : ∀ suggestion : Text, prompt.answer s.asked (.input "Region" suggestion) =
      other.answer t.asked (.input "Region" suggestion)) :
    SameEnds s.asked t.asked ((settleRegion l suggested profile wish).outcome prompt s)
      ((settleRegion l suggested profile wish).outcome other t) := by
  rw [settleRegion]
  split
  · exact ⟨rfl, disk, [], by simp⟩
  · exact Region.resolve_sameEnds l.configStore suggested profile disk replies

end Ends

namespace Selection

variable {l : Locations} {prompt other : Prompt} {s : Session} {catalog : Catalog}
  {name suggested : Text} {index : Nat}

/-! ## Names that are refused and entries that are none -/

/-- A spelling is refused as one of a profile that no file knows. -/
theorem fault_of_validate {spelling : Text} {fault : Fault}
    (refused : validate catalog spelling = .error fault) : fault = unknownProfile spelling := by
  rw [validate] at refused
  split at refused
  · cases refused
  · split at refused
    · cases refused
    · cases refused
      rfl

/-- There is no entry behind the last one. -/
theorem choose_beyond (answered : prompt.answer s.asked (choice catalog) = .ok (index + 1 : Nat))
    (beyond : catalog.names.length ≤ index) (l : Locations) :
    (choose l catalog).outcome prompt s =
      (.error (noSuchOption (index + 1)), { s with asked := s.asked ++ [choice catalog] }) := by
  have selected : (Flow.ask (choice catalog)).outcome prompt s =
      (.ok (index + 1 : Nat), { s with asked := s.asked ++ [choice catalog] }) := by
    rw [Flow.outcome_ask, answered]
  have unlisted : (options catalog)[index + 1]? = none := by
    rw [options, List.getElem?_cons_succ]
    exact List.getElem?_eq_none beyond
  apply (Flow.outcome_bind_of_ok prompt s selected _).trans
  simp only [unlisted]
  rfl

/-! ## The two ways -/

/-- Naming a profile and choosing one lead to the same profiles of a catalog. -/
structure PicksAgree (catalog : Catalog) : Prop where
  /-- A spelling is taken for its small letters, if these are the default profile or are known. -/
  known : ∀ spelling name : Text, validate catalog spelling = .ok name ↔
    name = spelling.toLower ∧ (name = defaultProfile ∨ name ∈ catalog.names)
  /-- Any other spelling is not found. -/
  unknown : ∀ spelling : Text,
    ¬(spelling.toLower = defaultProfile ∨ spelling.toLower ∈ catalog.names) →
      validate catalog spelling = .error (.notFound ("profile " ++ spelling.quoted))
  /-- Two spellings of the same small letters have the same answer. -/
  spellings : ∀ spelling other : Text, spelling.toLower = other.toLower → ∀ name,
    validate catalog spelling = .ok name ↔ validate catalog other = .ok name
  /-- An answer is an answer for itself. -/
  again : ∀ spelling name : Text,
    validate catalog spelling = .ok name → validate catalog name = .ok name
  /-- An entry behind the first one is a name of the catalog, which is the answer for itself. -/
  entry : ∀ (l : Locations) (prompt : Prompt) (s : Session) (index : Nat),
    prompt.answer s.asked (choice catalog) = .ok (index + 1 : Nat) →
      ∀ name, catalog.names[index]? = some name →
        (choose l catalog).outcome prompt s =
          (.ok name, { s with asked := s.asked ++ [choice catalog] }) ∧
        validate catalog name = .ok name
  /-- There is no entry behind the last one. -/
  beyond : ∀ (l : Locations) (prompt : Prompt) (s : Session) (index : Nat),
    prompt.answer s.asked (choice catalog) = .ok (index + 1 : Nat) →
      catalog.names.length ≤ index →
        (choose l catalog).outcome prompt s =
          (.error (.prompt ("no profile option at index " ++ Text.ofNat (index + 1))),
            { s with asked := s.asked ++ [choice catalog] })
  /-- A run that chooses an entry and a run that names it end in the same way, if the question for
  the region has the same reply in both. -/
  runs : ∀ (l : Locations) (prompt other : Prompt) (s : Session) (index : Nat) (name : Text),
    ((Catalog.discover l).outcome prompt s).1 = .ok catalog →
    prompt.answer s.asked (choice catalog) = .ok (index + 1 : Nat) →
    catalog.names[index]? = some name → name ≠ [] →
    (∀ suggestion : Text, prompt.answer (s.asked ++ [choice catalog]) (.input "Region" suggestion) =
      other.answer s.asked (.input "Region" suggestion)) →
    ∀ (suggested description : Text) (unnamed region : Option Text),
      unnamed.filter (· ≠ []) = none →
      SameEnds (s.asked ++ [choice catalog]) s.asked
        ((run l suggested ⟨unnamed, region, description⟩).outcome prompt s)
        ((run l suggested ⟨some name, region, description⟩).outcome other s)

/-- A name of the catalog is the answer for itself. -/
theorem validate_entry (built : Catalog.Built catalog) (entry : catalog.names[index]? = some name) :
    validate catalog name = .ok name := by
  have member : name ∈ catalog.names := List.mem_of_getElem? entry
  exact validate_eq_ok_iff.2 ⟨(built.toLower_of_mem member).symm, .inr member⟩

/-- Whether a profile is chosen or named, the run goes on with its region. -/
theorem run_sameEnds (small : validate catalog name = .ok name)
    (made : ((Catalog.discover l).outcome prompt s).1 = .ok catalog)
    (answered : prompt.answer s.asked (choice catalog) = .ok (index + 1 : Nat))
    (entry : catalog.names[index]? = some name) (nonempty : name ≠ [])
    (replies : ∀ suggestion : Text,
      prompt.answer (s.asked ++ [choice catalog]) (.input "Region" suggestion) =
        other.answer s.asked (.input "Region" suggestion))
    (suggested description : Text) {unnamed region : Option Text}
    (noProfile : unnamed.filter (· ≠ []) = none) :
    SameEnds (s.asked ++ [choice catalog]) s.asked
      ((run l suggested ⟨unnamed, region, description⟩).outcome prompt s)
      ((run l suggested ⟨some name, region, description⟩).outcome other s) := by
  have discovered : ∀ prompt, (Catalog.discover l).Logs prompt s catalog := by
    intro prompt'
    obtain ⟨log, ran⟩ := Catalog.outcome_discover l prompt s
    obtain ⟨log', ran'⟩ := Catalog.outcome_discover l prompt' s
    have taken : Catalog.taken l s.disk = .ok catalog := by
      rw [ran] at made
      exact made
    rw [taken] at ran'
    exact ⟨log', ran'⟩
  have chosen : ∀ log, (settleProfile l catalog unnamed).outcome prompt { s with log := log } =
      (.ok name, { s with asked := s.asked ++ [choice catalog], log := log }) := by
    intro log
    rw [settleProfile, noProfile]
    exact choose_entry (s := { s with log := log }) answered entry l
  have named : ∀ log, (settleProfile l catalog (some name)).outcome other { s with log := log } =
      (.ok name, { s with asked := s.asked ++ [], log := log }) := by
    intro log
    rw [List.append_nil]
    exact settleProfile_named small nonempty l other { s with log := log }
  obtain ⟨log, first⟩ := outcome_run_of_settled ⟨unnamed, region, description⟩
    (discovered prompt) chosen suggested
  obtain ⟨log', second⟩ := outcome_run_of_settled ⟨some name, region, description⟩
    (discovered other) named suggested
  rw [Flow.outcome_bind_pure] at first second
  -- From here both runs settle the region: one after the question for the profile, one without.
  have ends := settleRegion_sameEnds
    (s := { s with asked := s.asked ++ [choice catalog], log := log })
    (t := { s with asked := s.asked ++ [], log := log' }) l suggested name region rfl
    (by simpa using replies)
  rw [first, second]
  refine ⟨?_, ends.disk, ?_⟩
  · dsimp only
    rw [ends.result]
  · simpa using ends.asked

/-- **Naming a profile and choosing it agree.** In a catalog that is discovered or made of names, a
profile is named in any letter case, and the answer is its name in small letters if this is known
and a fault otherwise. The entries of the list are these names, and a run that chooses one ends like
the run that names it. -/
theorem picksAgree_of_built (built : Catalog.Built catalog) : PicksAgree catalog where
  known _ _ := validate_eq_ok_iff
  unknown spelling foreign := by
    cases answer : validate catalog spelling with
    | ok name =>
      obtain ⟨rfl, found⟩ := validate_eq_ok_iff.1 answer
      exact absurd found foreign
    | error fault => rw [fault_of_validate answer, unknownProfile]
  spellings spelling other same name := by
    rw [validate_eq_ok_iff, validate_eq_ok_iff, same]
  again spelling name answer := by
    obtain ⟨rfl, found⟩ := validate_eq_ok_iff.1 answer
    exact validate_eq_ok_iff.2 ⟨(Text.toLower_toLower spelling).symm, found⟩
  entry l _ _ _ answered _ entry := ⟨choose_entry answered entry l, validate_entry built entry⟩
  beyond l _ _ _ answered beyond := choose_beyond answered beyond l
  runs _ _ _ _ _ _ made answered entry nonempty replies suggested description _ _ noProfile :=
    run_sameEnds (validate_entry built entry) made answered entry nonempty replies suggested
      description noProfile

/-- A profile that is called like the entry for a new one is chosen behind that entry, and it is
named like any other. Its region is asked for in both runs. -/
theorem picksAgree_newProfile :
    let s := Session.start (.ofFiles (some "[New Profile]\n") (some "[profile Work]\n"))
    let choosing := Prompt.playing [.select 1, .input none] fun _ => .canceled
    let naming := Prompt.playing [.input none] fun _ => .canceled
    let catalog : Catalog := ⟨["new profile", "work"]⟩
    ((Catalog.discover atRoot).outcome choosing s).1 = .ok catalog ∧
      PicksAgree catalog ∧
      ((run atRoot "us-east-1" ⟨none, none, []⟩).outcome choosing s).1 =
        .ok (⟨"new profile", "us-east-1"⟩, "(us-east-1)") ∧
      SameEnds [choice catalog] [] ((run atRoot "us-east-1" ⟨none, none, []⟩).outcome choosing s)
        ((run atRoot "us-east-1" ⟨some "new profile", none, []⟩).outcome naming s) := by
  intro s choosing naming catalog
  have made : ((Catalog.discover atRoot).outcome choosing s).1 = .ok catalog := by decide +kernel
  have agree : PicksAgree catalog := picksAgree_of_built (.discovered (Prod.ext made rfl))
  have picked : ((run atRoot "us-east-1" ⟨none, none, []⟩).outcome choosing s).1 =
      .ok (⟨"new profile", "us-east-1"⟩, "(us-east-1)") := by decide +kernel
  have nonempty : ("new profile" : Text) ≠ [] := by decide
  exact ⟨made, agree, picked, agree.runs atRoot choosing naming s 0 "new profile" made rfl rfl
    nonempty (fun _ => rfl) "us-east-1" [] none none rfl⟩

end Selection

end ProfilePicker
