import ProfilePicker.Proofs.Keeping
import ProfilePicker.Selection

/-!
# What a run writes

A run of the selection reads both files and writes at most twice: a pair of keys for a profile
that is made, and a region that is asked for. What it writes are replies to questions that it
asked. So it keeps everything else in both files as long as each of these replies stays within
its line.
-/
namespace ProfilePicker

open Ini (Document PlainName PlainText ClosedText Contained closedDocument)

/-! ## Flows that only log -/

/-- A flow that returns a value and changes nothing but the log. -/
def Flow.Logs {α : Type} (flow : Flow α) (prompt : Prompt) (s : Session) (a : α) : Prop :=
  ∃ log, flow.outcome prompt s = (.ok a, { s with log := log })

namespace Flow

variable {α β : Type} {prompt : Prompt} {s : Session}

/-- Returning a value logs nothing. -/
theorem Logs.pure (prompt : Prompt) (s : Session) (a : α) :
    Logs (Pure.pure a : Flow α) prompt s a := ⟨s.log, rfl⟩

/-- Adding a line to the log changes the log. -/
theorem Logs.log (prompt : Prompt) (s : Session) (level : Level) (text : Text) :
    Logs (Flow.log level text) prompt s () := ⟨_, rfl⟩

/-- Two flows that only log do so together. -/
theorem Logs.bind {flow : Flow α} {next : α → Flow β} {a : α} {b : β}
    (first : flow.Logs prompt s a) (second : ∀ s, (next a).Logs prompt s b) :
    (flow >>= next).Logs prompt s b := by
  obtain ⟨log, done⟩ := first
  obtain ⟨log', more⟩ := second { s with log := log }
  exact ⟨log', (outcome_bind_of_ok prompt s done next).trans more⟩

/-- A flow that only logs comes before another one. -/
theorem Logs.outcome_bind {flow : Flow α} {a : α} (first : flow.Logs prompt s a)
    (next : α → Flow β) :
    ∃ log, (flow >>= next).outcome prompt s = (next a).outcome prompt { s with log := log } := by
  obtain ⟨log, done⟩ := first
  exact ⟨log, outcome_bind_of_ok prompt s done next⟩

/-- Choosing among the members of a list only logs when each choice does. -/
theorem Logs.filterMapM {f : α → Flow (Option β)} {g : α → Option β}
    (each : ∀ a s, (f a).Logs prompt s (g a)) (l : List α) (s : Session) :
    (l.filterMapM f).Logs prompt s (l.filterMap g) := by
  have loop : ∀ (l : List α) (found : List β) (s : Session),
      (List.filterMapM.loop f l found).Logs prompt s (found.reverse ++ l.filterMap g) := by
    intro l
    induction l with
    | nil =>
      intro found s
      rw [List.filterMapM.loop, List.filterMap_nil, List.append_nil]
      exact .pure prompt s _
    | cons a l ih =>
      intro found s
      rw [List.filterMapM.loop]
      refine (each a s).bind fun s => ?_
      cases chosen : g a with
      | none =>
        rw [List.filterMap_cons_none chosen]
        exact ih found s
      | some b =>
        rw [List.filterMap_cons_some chosen]
        have later := ih (b :: found) s
        rw [List.reverse_cons, List.append_assoc, List.singleton_append] at later
        exact later
  exact loop l [] s

end Flow

/-! ## Discovering profiles -/

namespace Catalog

variable {prompt : Prompt} {s : Session} {store : Store} {content : Option Text} {d : Document}

/-- The profiles among the sections of a document are found. -/
theorem profilesIn_logs (naming : Naming) (store : Store) (d : Document) (s : Session) :
    (profilesIn naming store d).Logs prompt s (d.sections.filterMap naming.profileFor?) := by
  refine Flow.Logs.filterMapM (fun name s => ?_) d.sections s
  cases naming.profileFor? name with
  | some profile => exact .pure prompt s _
  | none => exact (Flow.Logs.log prompt s _ _).bind fun s => .pure prompt s _

/-- The profiles of a file are those among the sections of its document. -/
theorem profilesOf_logs (naming : Naming) (finds : s.disk.Finds store.path content)
    (read : documentOf content = .ok d) :
    (profilesOf naming store).Logs prompt s (d.sections.filterMap naming.profileFor?) := by
  cases content with
  | some t =>
    obtain ⟨log, loaded⟩ := Store.outcome_load_of_finds prompt finds read
    have attempted : store.load.attempt.Logs prompt s (.ok d) :=
      ⟨log, by rw [Flow.outcome_attempt, loaded]⟩
    exact attempted.bind fun s => profilesIn_logs naming store d s
  | none =>
    cases read
    have attempted : store.load.attempt.Logs prompt s (.error (.missingFile store.path)) :=
      ⟨s.log, by rw [Flow.outcome_attempt, Store.load_missing prompt finds]⟩
    exact attempted.bind fun s => (Flow.Logs.log prompt s _ _).bind fun s => .pure prompt s _

/-- The profiles of two documents. -/
def ofDocuments (keys settings : Document) : Catalog :=
  ofNames (keys.sections.filterMap Naming.verbatim.profileFor? ++
    settings.sections.filterMap Naming.prefixed.profileFor?)

/-- They are the profiles of the sections in both, in small letters. -/
theorem mem_ofDocuments {keys settings : Document} {name : Text} :
    name ∈ (ofDocuments keys settings).names ↔
      ∃ profile, (profile ∈ keys.sections ∨
        ∃ section_ ∈ settings.sections, Naming.prefixed.profileFor? section_ = some profile) ∧
      profile.toLower = name := by
  rw [ofDocuments, ofNames, mem_distinct, List.mem_map]
  refine exists_congr fun profile => and_congr_left' ?_
  rw [List.mem_append, List.mem_filterMap, List.mem_filterMap]
  simp [Naming.profileFor?]

/-- The catalog is the one of the documents in both files. -/
theorem discover_logs {l : Locations} {keysContent settingsContent : Option Text}
    {keys settings : Document} (findsKeys : s.disk.Finds l.credentials keysContent)
    (readKeys : documentOf keysContent = .ok keys)
    (findsSettings : s.disk.Finds l.config settingsContent)
    (readSettings : documentOf settingsContent = .ok settings) :
    (discover l).Logs prompt s (ofDocuments keys settings) := by
  obtain ⟨log, first⟩ : (profilesOf .verbatim l.credentialsStore).Logs prompt s _ :=
    profilesOf_logs .verbatim findsKeys readKeys
  obtain ⟨log', second⟩ :
      (profilesOf .prefixed l.configStore).Logs prompt { s with log := log } _ :=
    profilesOf_logs .prefixed findsSettings readSettings
  refine ⟨log' ++ [⟨.debug, "discovered " ++ Text.ofNat (ofDocuments keys settings).names.length ++
    " profiles"⟩], ?_⟩
  rw [discover, Flow.outcome_bind_of_ok prompt s first, Flow.outcome_bind_of_ok prompt _ second]
  rfl

/-- Small letters do not make a name empty. -/
theorem toLower_ne_nil {s : Text} (nonempty : s ≠ []) : s.toLower ≠ [] :=
  Text.toLowerAfter_ne_nil [] nonempty

/-- A profile has a name where the section it belongs to has a trimmed one. -/
theorem profile_ne_nil {naming : Naming} {name profile : Text} (nonempty : name ≠ [])
    (trimmed : Text.Trimmed name) (belongs : naming.profileFor? name = some profile) :
    profile ≠ [] := by
  cases naming with
  | verbatim =>
    cases belongs
    exact nonempty
  | prefixed =>
    rw [Naming.profileFor?] at belongs
    split at belongs
    · cases belongs
      exact nonempty
    · rintro rfl
      obtain rfl := Text.dropStart?_eq_some_iff.1 belongs
      exact absurd trimmed (by decide)

/-- All profiles that plain documents make known have names. -/
theorem name_ne_nil_of_mem {keys settings : Document}
    (plainKeys : ∀ name ∈ keys.sections, PlainName name)
    (plainSettings : ∀ name ∈ settings.sections, PlainName name) {name : Text}
    (known : name ∈ (ofDocuments keys settings).names) : name ≠ [] := by
  obtain ⟨profile, member | ⟨section_, inside, belongs⟩, rfl⟩ := mem_ofDocuments.1 known
  · exact toLower_ne_nil (plainKeys profile member).nonempty
  · have plain := plainSettings section_ inside
    exact toLower_ne_nil (profile_ne_nil plain.nonempty plain.trimmed belongs)

end Catalog

/-! ## What a successful flow has done -/

namespace Flow

variable {α β : Type} {host : Host} {prompt : Prompt} {s s' : Session}

/-- Of two flows that succeed together, each succeeds. -/
theorem ok_of_bind {flow : Flow α} {next : α → Flow β} {b : β}
    (done : (flow >>= next).outcome prompt s host = (.ok b, s')) :
    ∃ a between, flow.outcome prompt s host = (.ok a, between) ∧
      (next a).outcome prompt between host = (.ok b, s') := by
  rw [outcome_bind] at done
  split at done
  · rename_i a between first
    exact ⟨a, between, first, done⟩
  · cases done

/-- A question that is asked with success has a reply, and it counts as asked. -/
theorem ok_of_ask {q : Question} {reply : q.Reply}
    (done : (ask q).outcome prompt s host = (.ok reply, s')) :
    prompt.answer s.asked q = .ok reply ∧ s' = { s with asked := s.asked ++ [q] } := by
  rw [outcome_ask, Prod.mk.injEq] at done
  exact ⟨done.1, done.2.symm⟩

end Flow

/-- The reply to the last question of a run. -/
theorem Prompt.replied_concat {prompt : Prompt} {asked : List Question} {q : Question}
    {reply : q.Reply} (answered : prompt.answer asked q = .ok reply) :
    prompt.Replied (asked ++ [q]) q reply :=
  ⟨asked, [], rfl, answered⟩

/-- A reply stays a reply when the run goes on. -/
theorem Prompt.Replied.later {prompt : Prompt} {asked more : List Question} {q : Question}
    {reply : q.Reply} (replied : prompt.Replied asked q reply) (part : asked <+: more) :
    prompt.Replied more q reply := by
  obtain ⟨before, after, rfl, answered⟩ := replied
  obtain ⟨later, rfl⟩ := part
  exact ⟨before, after ++ later, by simp, answered⟩

namespace Credentials

/-- The question whether the user gives a pair. -/
def agreement : Question := .confirm "Enter AWS credentials" false

/-- The question for the name of a key. -/
def idQuestion : Question := .input "AWS Access Key ID" []

/-- The question for a secret. -/
def secretQuestion : Question := .password "Enter AWS Secret Access Key"

/-- The two halves of a pair were typed in a run. -/
structure Typed (prompt : Prompt) (asked : List Question) (c : Credentials) : Prop where
  /-- The name of the key was. -/
  id : prompt.Replied asked idQuestion c.id
  /-- The secret was. -/
  secret : prompt.Replied asked secretQuestion c.secret

/-- What was typed in a run was typed in the longer one. -/
theorem Typed.later {prompt : Prompt} {asked more : List Question} {c : Credentials}
    (typed : Typed prompt asked c) (part : asked <+: more) : Typed prompt more c :=
  ⟨typed.id.later part, typed.secret.later part⟩

/-- A pair is accepted when both halves are long enough. -/
theorem ofTyped_eq_ok_iff {id secret : Text} {c : Credentials} : ofTyped id secret = .ok c ↔
    c = ⟨id, secret⟩ ∧ leastLength ≤ id.length ∧ leastLength ≤ secret.length := by
  rw [ofTyped]
  by_cases short : id.length < leastLength ∨ secret.length < leastLength
  · have refused : (id.length < leastLength || secret.length < leastLength) = true := by
      simpa using short
    rw [if_pos refused]
    constructor
    · intro accepted
      cases accepted
    · rintro ⟨-, longId, longSecret⟩
      omega
  · have accepted : ¬(id.length < leastLength || secret.length < leastLength) = true := by
      simpa using short
    rw [if_neg accepted]
    constructor
    · intro same
      cases same
      exact ⟨rfl, by omega, by omega⟩
    · rintro ⟨rfl, -, -⟩
      rfl

/-- After some questions, the user agrees to give a pair, and types one that is accepted. -/
structure Gives (prompt : Prompt) (asked : List Question) (c : Credentials) : Prop where
  /-- The user says yes. -/
  agreed : prompt.answer asked agreement = .ok true
  /-- Then the name of the key is typed. -/
  id : prompt.answer (asked ++ [agreement]) idQuestion = .ok c.id
  /-- Then the secret is. -/
  secret : prompt.answer (asked ++ [agreement] ++ [idQuestion]) secretQuestion = .ok c.secret
  /-- Both are long enough. -/
  long : leastLength ≤ c.id.length ∧ leastLength ≤ c.secret.length

variable {prompt : Prompt} {s s' : Session}

/-- A pair that the user gives is what asking for it comes to. -/
theorem Gives.outcome_ask {c : Credentials} {host : Host} (gives : Gives prompt s.asked c) :
    ask.outcome prompt s host = (.ok (some c), { s with asked := s.asked ++ [agreement] ++
      [idQuestion] ++ [secretQuestion] }) := by
  have agreed : (Flow.ask agreement).outcome prompt s host =
      (.ok true, { s with asked := s.asked ++ [agreement] }) := by
    rw [Flow.outcome_ask, gives.agreed]
  have named : ∀ s₁ : Session, s₁.asked = s.asked ++ [agreement] →
      (Flow.ask idQuestion).outcome prompt s₁ host =
        (.ok c.id, { s₁ with asked := s₁.asked ++ [idQuestion] }) := fun s₁ same => by
    rw [Flow.outcome_ask, same, gives.id]
  have told : ∀ s₂ : Session, s₂.asked = s.asked ++ [agreement] ++ [idQuestion] →
      (Flow.ask secretQuestion).outcome prompt s₂ host =
        (.ok c.secret, { s₂ with asked := s₂.asked ++ [secretQuestion] }) := fun s₂ same => by
    rw [Flow.outcome_ask, same, gives.secret]
  have accepted : ofTyped c.id c.secret = .ok c := ofTyped_eq_ok_iff.2 ⟨rfl, gives.long⟩
  rw [ask]
  apply (Flow.outcome_bind_of_ok prompt s agreed _).trans
  simp only [if_true]
  apply (Flow.outcome_bind_of_ok prompt _ (named _ rfl) _).trans
  apply (Flow.outcome_bind_of_ok prompt _ (told _ rfl) _).trans
  rw [accepted]
  rfl

/-- Keys that the user gives are made as they are stored. -/
theorem Gives.outcome_createProfile {c : Credentials} (gives : Gives prompt s.asked c)
    (store : Store) (profile : Text) (host : Host) :
    ∃ log, (createProfile store profile).outcome prompt s host =
      ((saving store profile c s.disk host).1, ⟨(saving store profile c s.disk host).2,
        s.asked ++ [agreement] ++ [idQuestion] ++ [secretQuestion], log⟩) := by
  obtain ⟨log, saved⟩ := outcome_save store profile c prompt { s with asked := s.asked ++
    [agreement] ++ [idQuestion] ++ [secretQuestion] } host
  exact ⟨log, (Flow.outcome_bind_of_ok prompt s gives.outcome_ask _).trans saved⟩

/-- So they are for a profile that has none. -/
theorem Gives.outcome_createProfile_of_unstored {store : Store} {content : Option Text}
    {d : Document} {profile : Text} {c : Credentials} (gives : Gives prompt s.asked c)
    (holds : s.disk.Holds store.path content) (read : documentOf content = .ok d)
    (unstored : ofDocument? d profile = none) :
    ∃ written log, s.disk.Rewrites store.path (c.storeIn profile d).text written ∧
      (createProfile store profile).outcome prompt s = (.ok (), ⟨written,
        s.asked ++ [agreement] ++ [idQuestion] ++ [secretQuestion], log⟩) := by
  obtain ⟨written, rewrites, saved⟩ := saving_of_unstored store profile holds read unstored c
  obtain ⟨log, made⟩ := gives.outcome_createProfile store profile .willing
  rw [saved] at made
  exact ⟨written, log, rewrites, made⟩

/-- A pair that is asked for was typed. -/
theorem ok_of_ask {answer : Option Credentials} (done : ask.outcome prompt s = (.ok answer, s')) :
    s'.disk = s.disk ∧ s.asked <+: s'.asked ∧
      ∀ c, answer = some c → Typed prompt s'.asked c := by
  obtain ⟨agreed, s₁, first, done⟩ := Flow.ok_of_bind done
  obtain ⟨-, rfl⟩ := Flow.ok_of_ask first
  cases agreed with
  | false =>
    cases done
    exact ⟨rfl, List.prefix_append _ _, by simp⟩
  | true =>
    obtain ⟨id, s₂, second, done⟩ := Flow.ok_of_bind done
    obtain ⟨idAnswered, rfl⟩ := Flow.ok_of_ask second
    obtain ⟨secret, s₃, third, done⟩ := Flow.ok_of_bind done
    obtain ⟨secretAnswered, rfl⟩ := Flow.ok_of_ask third
    dsimp only at done
    split at done
    · rename_i c accepted
      cases done
      obtain ⟨rfl, -⟩ := ofTyped_eq_ok_iff.1 accepted
      refine ⟨rfl, by simp, ?_⟩
      rintro c ⟨rfl⟩
      exact ⟨(Prompt.replied_concat idAnswered).later (List.prefix_append _ _),
        Prompt.replied_concat secretAnswered⟩
    · cases done

/-- Keys are saved only for a profile without a pair, and then they are written. -/
theorem ok_of_save {store : Store} {content : Option Text} {d : Document} {profile : Text}
    {c : Credentials} (holds : s.disk.Holds store.path content) (read : documentOf content = .ok d)
    (done : (save store profile c).outcome prompt s = (.ok (), s')) :
    s'.asked = s.asked ∧ s.disk.Rewrites store.path (c.storeIn profile d).text s'.disk := by
  cases stored : ofDocument? d profile with
  | none =>
    obtain ⟨written, log, rewrites, saved⟩ :=
      outcome_save_of_unstored store prompt profile holds read stored c
    rw [saved] at done
    cases done
    exact ⟨rfl, rewrites⟩
  | some old =>
    cases content with
    | none =>
      cases read
      cases stored
    | some t =>
      obtain ⟨log, refused⟩ := save_stored store prompt profile holds read stored c
      rw [refused] at done
      cases done

/-- Keys are made for a profile as they were typed, or not at all. -/
theorem ok_of_createProfile {store : Store} {content : Option Text} {d : Document} {profile : Text}
    (holds : s.disk.Holds store.path content) (read : documentOf content = .ok d)
    (done : (createProfile store profile).outcome prompt s = (.ok (), s')) :
    s.asked <+: s'.asked ∧ (s'.disk = s.disk ∨ ∃ c, Typed prompt s'.asked c ∧
      s.disk.Rewrites store.path (c.storeIn profile d).text s'.disk) := by
  obtain ⟨answer, s₁, first, done⟩ := Flow.ok_of_bind done
  obtain ⟨disk, asked, typed⟩ := ok_of_ask first
  cases answer with
  | none =>
    cases done
    exact ⟨asked, .inl disk⟩
  | some c =>
    rw [← disk] at holds ⊢
    obtain ⟨same, rewrites⟩ := ok_of_save holds read done
    rw [same]
    exact ⟨asked, .inr ⟨c, typed c rfl, rewrites⟩⟩

end Credentials

/-- The profile that a context is about. -/
def Context.name (c : Context) : Text := if c.profile = [] then defaultProfile else c.profile

/-- A context is about the profile that it was made of. -/
theorem Context.name_of {profile : Text} (nonempty : profile ≠ []) (region : Text) :
    (Context.of profile region).name = profile := by
  by_cases bare : profile = defaultProfile
  · simp [name, Context.of, bare]
  · simp [name, Context.of, bare, nonempty]

namespace Selection

variable {l : Locations} {prompt : Prompt} {s s' : Session}
  {keysContent settingsContent : Option Text} {keys settings : Document}

/-- Both files at the root. -/
def atRoot : Locations := ⟨"/credentials", "/config"⟩

/-- The question for a profile. -/
def choice (catalog : Catalog) : Question := .select "Select AWS Profile" (options catalog)

/-- The question for the name of a new profile. -/
def nameQuestion (catalog : Catalog) : Question :=
  .input "profile name" (if catalog.contains defaultProfile then [] else defaultProfile)

/-- What settling on a profile has written: a pair of keys that was typed, or nothing. -/
def KeysWritten (l : Locations) (prompt : Prompt) (keys : Document) (profile : Text)
    (s s' : Session) : Prop :=
  s'.disk = s.disk ∨ ∃ c, Credentials.Typed prompt s'.asked c ∧
    s.disk.Rewrites l.credentials (c.storeIn profile keys).text s'.disk

/-- The config file holds what it did. -/
theorem KeysWritten.stays {profile : Text} {content : Option Text}
    (written : KeysWritten l prompt keys profile s s')
    (apart : Path.Apart s.disk.directory l.credentials l.config)
    (holds : s.disk.Holds l.config content) :
    s'.disk.directory = s.disk.directory ∧ s'.disk.Holds l.config content := by
  rcases written with same | ⟨c, -, rewrites⟩
  · rw [same]
    exact ⟨rfl, holds⟩
  · exact ⟨rewrites.directory, rewrites.others apart holds⟩

/-- Where the profile comes from that a run settles on. -/
inductive Chosen (prompt : Prompt) (catalog : Catalog) (asked : List Question) : Text → Prop
  /-- The default profile is always known. -/
  | bare : Chosen prompt catalog asked defaultProfile
  /-- The catalog knows it. -/
  | known {profile : Text} (member : profile ∈ catalog.names) : Chosen prompt catalog asked profile
  /-- Its name was typed. -/
  | typed {name : Text} (replied : prompt.Replied asked (nameQuestion catalog) name)
      (visible : name.trim ≠ []) : Chosen prompt catalog asked name.trim

/-- It has a name when all profiles in the catalog do. -/
theorem Chosen.nonempty {catalog : Catalog} {asked : List Question} {profile : Text}
    (chosen : Chosen prompt catalog asked profile)
    (named : ∀ name ∈ catalog.names, name ≠ []) : profile ≠ [] := by
  cases chosen with
  | bare => decide
  | known member => exact named profile member
  | typed replied visible => exact visible

/-- The name of a profile that is made was typed, and so were its keys. -/
theorem ok_of_create {catalog : Catalog} {name : Text}
    (holds : s.disk.Holds l.credentials keysContent) (read : documentOf keysContent = .ok keys)
    (done : (create l catalog).outcome prompt s = (.ok name, s')) :
    Chosen prompt catalog s'.asked name ∧ s.asked <+: s'.asked ∧
      KeysWritten l prompt keys name s s' := by
  obtain ⟨typed, s₁, first, done⟩ := Flow.ok_of_bind done
  obtain ⟨answered, rfl⟩ := Flow.ok_of_ask first
  dsimp only at done
  split at done
  · obtain ⟨_, _, failed, -⟩ := Flow.ok_of_bind done
    cases failed
  · rename_i visible
    obtain ⟨_, s₂, logged, done⟩ := Flow.ok_of_bind done
    cases logged
    obtain ⟨_, s₃, made, done⟩ := Flow.ok_of_bind done
    cases done
    obtain ⟨asked, written⟩ := Credentials.ok_of_createProfile (by exact holds) read made
    have replied := (Prompt.replied_concat answered).later asked
    exact ⟨.typed replied (by simpa using visible), (List.prefix_append _ _).trans asked, written⟩

/-- The profile that is settled on was chosen, and any keys written for it were typed. -/
theorem ok_of_settleProfile {catalog : Catalog} {wish : Option Text} {profile : Text}
    (holds : s.disk.Holds l.credentials keysContent) (read : documentOf keysContent = .ok keys)
    (done : (settleProfile l catalog wish).outcome prompt s = (.ok profile, s')) :
    Chosen prompt catalog s'.asked profile ∧ s.asked <+: s'.asked ∧
      KeysWritten l prompt keys profile s s' := by
  rw [settleProfile] at done
  split at done
  · rename_i name wished
    cases checked : validate catalog name with
    | error fault =>
      rw [checked] at done
      cases done
    | ok known =>
      rw [checked] at done
      cases done
      rw [validate] at checked
      split at checked
      · cases checked
        exact ⟨.bare, List.prefix_rfl, .inl rfl⟩
      · split at checked
        · rename_i found
          cases checked
          exact ⟨.known (List.mem_of_find?_eq_some found), List.prefix_rfl, .inl rfl⟩
        · cases checked
  · obtain ⟨index, s₁, first, done⟩ := Flow.ok_of_bind done
    obtain ⟨-, rfl⟩ := Flow.ok_of_ask first
    split at done
    · obtain ⟨chosen, asked, written⟩ := ok_of_create (by exact holds) read done
      exact ⟨chosen, (List.prefix_append _ _).trans asked, written⟩
    · rename_i other
      obtain ⟨entry, rfl⟩ := Nat.exists_eq_succ_of_ne_zero other
      split at done
      · rename_i picked
        cases done
        exact ⟨.known (List.mem_of_getElem? picked), List.prefix_append _ _, .inl rfl⟩
      · cases done

/-- What settling on a region has written: the region that was typed, unless one was named. -/
inductive RegionWritten (l : Locations) (prompt : Prompt) (settings : Document) (profile : Text)
    (wish : Option Text) (s s' : Session) : Text → Prop
  /-- Nothing is written of a region that is named. -/
  | named {region : Text} (wished : wish.filter (· ≠ []) = some region)
      (same : s'.disk = s.disk) : RegionWritten l prompt settings profile wish s s' region
  /-- A region that is typed is written without the blanks around it. -/
  | typed {suggestion typed : Text} (unnamed : wish.filter (· ≠ []) = none)
      (replied : prompt.Replied s'.asked (.input "Region" suggestion) typed)
      (rewrites : s.disk.Rewrites l.config (Region.storeIn typed.trim profile settings).text
        s'.disk) : RegionWritten l prompt settings profile wish s s' typed.trim

/-- The credentials file holds what it did. -/
theorem RegionWritten.stays {profile region : Text} {wish content : Option Text}
    (written : RegionWritten l prompt settings profile wish s s' region)
    (apart : Path.Apart s.disk.directory l.config l.credentials)
    (holds : s.disk.Holds l.credentials content) : s'.disk.Holds l.credentials content := by
  cases written with
  | named wished same =>
    rw [same]
    exact holds
  | typed unnamed replied rewrites => exact rewrites.others apart holds

/-- Nothing is written where a region is named. -/
theorem RegionWritten.disk_eq {profile region : Text} {wish : Option Text}
    (written : RegionWritten l prompt settings profile wish s s' region)
    (named : wish.filter (· ≠ []) ≠ none) : s'.disk = s.disk := by
  cases written with
  | named wished same => exact same
  | typed unnamed replied rewrites => exact absurd unnamed named

/-- Else the region stands in the config file. -/
theorem RegionWritten.read {profile region : Text} {wish : Option Text}
    (written : RegionWritten l prompt settings profile wish s s' region)
    (unnamed : wish.filter (· ≠ []) = none) :
    s'.disk.read l.config = .ok (Region.storeIn region profile settings).text := by
  cases written with
  | named wished same =>
    rw [unnamed] at wished
    cases wished
  | typed unnamed replied rewrites => exact rewrites.holds.read

/-- A region that is written was typed. -/
theorem ok_of_settleRegion {suggested profile region : Text} {wish : Option Text}
    (holds : s.disk.Holds l.config settingsContent)
    (read : documentOf settingsContent = .ok settings)
    (done : (settleRegion l suggested profile wish).outcome prompt s = (.ok region, s')) :
    s.asked <+: s'.asked ∧ RegionWritten l prompt settings profile wish s s' region := by
  rw [settleRegion] at done
  split at done
  · rename_i wished
    cases done
    exact ⟨List.prefix_rfl, .named wished rfl⟩
  · rename_i unnamed
    obtain ⟨reply, answered⟩ : ∃ reply : Except Fault Text,
        prompt.answer s.asked (Region.question settings suggested profile) = reply := ⟨_, rfl⟩
    cases reply with
    | error fault =>
      obtain ⟨log, failed⟩ := Region.resolve_unanswered l.configStore prompt suggested profile
        holds read answered
      rw [failed] at done
      cases done
    | ok typed =>
      by_cases blank : typed.trim = []
      · obtain ⟨log, failed⟩ := Region.resolve_blank l.configStore prompt suggested profile
          holds read answered blank
        rw [failed] at done
        cases done
      · obtain ⟨written, log, rewrites, resolved⟩ := Region.resolve_answered l.configStore prompt
          suggested profile holds read answered blank
        rw [resolved] at done
        cases done
        exact ⟨List.prefix_append _ _,
          .typed unnamed (Prompt.replied_concat answered) rewrites⟩

/-! ## What a run keeps -/

/-- The plain names are those of the sections in a plain text. -/
theorem plainName_of_mem_sections {t : Text} (plain : PlainText t) {name : Text}
    (member : name ∈ (closedDocument t).sections) : PlainName name := by
  rw [Ini.mem_sections_closedDocument, Ini.headersIn_itemsOf, List.mem_filterMap] at member
  obtain ⟨line, inside, heads⟩ := member
  exact (plain.plainLine inside).plainName heads

/-- Keys that stay within their lines keep everything else in a credentials file. -/
theorem keeps_storeIn_keys {t profile : Text} {c : Credentials} (closed : ClosedText t)
    (plainName : PlainName profile) (id : Contained t c.id) (secret : Contained t c.secret) :
    ClosedText (c.storeIn profile (closedDocument t)).text ∧
      Ini.Keeps (fun name key => name = profile ∧
        (key = Credentials.idKey ∨ key = Credentials.secretKey)) (closedDocument t)
        (closedDocument (c.storeIn profile (closedDocument t)).text) := by
  have plainId : Ini.PlainKey Credentials.idKey := by decide
  have plainSecret : Ini.PlainKey Credentials.secretKey := by decide
  have between := closed.setLine_contained plainName plainId id
  have also : Contained (Ini.setLine t profile Credentials.idKey c.id) c.secret :=
    Contained.setLine closed plainName plainId id secret
  have first := closed.keeps plainName plainId id
  have second := between.keeps plainName plainSecret also
  refine ⟨between.setLine_contained plainName plainSecret also,
    (first.trans second).mono fun name key written => ?_⟩
  rcases written with ⟨rfl, rfl⟩ | ⟨rfl, rfl⟩
  · exact ⟨rfl, .inl rfl⟩
  · exact ⟨rfl, .inr rfl⟩

/-- A region that stays within its line keeps everything else in a config file. -/
theorem keeps_storeIn_region {t profile region : Text} (closed : ClosedText t)
    (plainName : PlainName profile) (contained : Contained t region) :
    ClosedText (Region.storeIn region profile (closedDocument t)).text ∧
      Ini.Keeps (fun name key => name = Naming.prefixed.sectionFor profile ∧ key = Region.key)
        (closedDocument t)
        (closedDocument (Region.storeIn region profile (closedDocument t)).text) := by
  have plainKey : Ini.PlainKey Region.key := by decide
  have plainSection := Naming.prefixed.plainName_sectionFor plainName
  exact ⟨closed.setLine_contained plainSection plainKey contained,
    closed.keeps plainSection plainKey contained⟩

/-- A run that succeeds has settled on a profile and a region, and has written keys and a region
as they were typed, or not at all. -/
theorem ok_of_run {suggested : Text} {wishes : Wishes} {result : Context × Text}
    (holdsKeys : s.disk.Holds l.credentials keysContent)
    (readKeys : documentOf keysContent = .ok keys)
    (holdsSettings : s.disk.Holds l.config settingsContent)
    (readSettings : documentOf settingsContent = .ok settings)
    (apart : Path.Apart s.disk.directory l.credentials l.config)
    (named : ∀ name ∈ (Catalog.ofDocuments keys settings).names, name ≠ [])
    (ran : (run l suggested wishes).outcome prompt s = (.ok result, s')) :
    (s'.disk.Holds l.credentials keysContent ∨ ∃ c, Credentials.Typed prompt s'.asked c ∧
      s'.disk.Holds l.credentials (some (c.storeIn result.1.name keys).text)) ∧
    (s'.disk.Holds l.config settingsContent ∨ ∃ suggestion typed : Text,
      prompt.Replied s'.asked (.input "Region" suggestion) typed ∧
      s'.disk.Holds l.config (some (Region.storeIn typed.trim result.1.name settings).text)) := by
  have discovered : (Catalog.discover l).Logs prompt s (.ofDocuments keys settings) :=
    Catalog.discover_logs holdsKeys.finds readKeys holdsSettings.finds readSettings
  obtain ⟨log, after⟩ := discovered.outcome_bind _
  rw [run, after] at ran
  obtain ⟨profile, s₁, settled, ran⟩ := Flow.ok_of_bind ran
  obtain ⟨chosen, -, keysWritten⟩ := ok_of_settleProfile (by exact holdsKeys) readKeys settled
  obtain ⟨region, s₂, resolved, ran⟩ := Flow.ok_of_bind ran
  cases ran
  rw [Context.name_of (chosen.nonempty named)]
  obtain ⟨directory, holdsSettings₁⟩ := keysWritten.stays apart holdsSettings
  obtain ⟨asked, regionWritten⟩ := ok_of_settleRegion holdsSettings₁ readSettings resolved
  have apart₁ : Path.Apart s₁.disk.directory l.config l.credentials := directory ▸ apart.symm
  constructor
  · rcases keysWritten with same | ⟨c, typed, rewrites⟩
    · exact .inl (regionWritten.stays apart₁ (same ▸ holdsKeys))
    · exact .inr ⟨c, typed.later asked, regionWritten.stays apart₁ rewrites.holds⟩
  · rcases regionWritten with ⟨-, same⟩ | ⟨-, replied, rewrites⟩
    · exact .inl (same ▸ holdsSettings₁)
    · exact .inr ⟨_, _, replied, rewrites.holds⟩

/-- A run for a profile keeps everything in both files but the values that it writes. -/
structure KeepsRest (l : Locations) (profile : Text) (before after : Disk) : Prop where
  /-- In the credentials file it writes the keys of the profile. -/
  keys : l.credentialsStore.Keeps (fun name key => name = profile ∧
    (key = Credentials.idKey ∨ key = Credentials.secretKey)) before after
  /-- In the config file it writes the region of the profile. -/
  settings : l.configStore.Keeps (fun name key =>
    name = Naming.prefixed.sectionFor profile ∧ key = Region.key) before after

/-- A run that succeeds on plain files keeps everything in them but the values that it writes, as
long as what was typed stays within its line. -/
theorem keeps_of_run {d : Disk} {suggested : Text} {wishes : Wishes} {result : Context × Text}
    (apart : Path.Apart d.directory l.credentials l.config) (plainKeys : d.Plain l.credentials)
    (plainSettings : d.Plain l.config)
    (ran : (run l suggested wishes).outcome prompt (.start d) = (.ok result, s'))
    (plainName : PlainName result.1.name)
    (idContained : ∀ typed : Text, prompt.Replied s'.asked Credentials.idQuestion typed →
      Contained (l.credentialsStore.text d) typed)
    (secretContained : ∀ typed : Text, prompt.Replied s'.asked Credentials.secretQuestion typed →
      Contained (l.credentialsStore.text d) typed)
    (regionContained : ∀ suggestion typed : Text,
      prompt.Replied s'.asked (.input "Region" suggestion) typed →
      Contained (l.configStore.text d) typed.trim) :
    KeepsRest l result.1.name d s'.disk := by
  obtain ⟨plainKeys, keys, keysContent, holdsKeys, plainKeysContent, readKeys⟩ :=
    Store.plain_cases l.credentialsStore plainKeys
  obtain ⟨plainSettings, settings, settingsContent, holdsSettings, plainSettingsContent,
    readSettings⟩ := Store.plain_cases l.configStore plainSettings
  have named : ∀ name ∈ (Catalog.ofDocuments (closedDocument (l.credentialsStore.text d))
      (closedDocument (l.configStore.text d))).names, name ≠ [] := fun name known =>
    Catalog.name_ne_nil_of_mem (fun _ member => plainName_of_mem_sections plainKeys member)
      (fun _ member => plainName_of_mem_sections plainSettings member) known
  obtain ⟨keysWritten, regionWritten⟩ := ok_of_run (by exact holdsKeys) readKeys
    (by exact holdsSettings) readSettings apart named ran
  constructor
  · rcases keysWritten with holds | ⟨c, typed, holds⟩
    · exact Store.keeps_of_holds _ holdsKeys holds plainKeysContent
    · obtain ⟨closed, kept⟩ := keeps_storeIn_keys plainKeys.closed plainName
        (idContained c.id typed.id) (secretContained c.secret typed.secret)
      exact Store.keeps_of_closed keys holds closed kept
  · rcases regionWritten with holds | ⟨suggestion, typed, replied, holds⟩
    · exact Store.keeps_of_holds _ holdsSettings holds plainSettingsContent
    · obtain ⟨closed, kept⟩ := keeps_storeIn_region plainSettings.closed plainName
        (regionContained suggestion typed replied)
      exact Store.keeps_of_closed settings holds closed kept

end Selection

end ProfilePicker
