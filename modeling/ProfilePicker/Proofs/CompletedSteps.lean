import ProfilePicker.Proofs.Hosts

/-!
# Completed steps

A run of the selection changes the files by exactly the steps that it has completed. It stores a
pair when the user makes a profile and the pair can be saved, and this stays even if the region
fails afterwards. It stores a region when it asked for one and succeeds. Everything else spares
both files, with one exception: a host that breaks off a write leaves a beginning of the new text,
and its reason ends the run.
-/
namespace ProfilePicker

/-- The text of a file after storing a pair for a profile in it. -/
def Credentials.textIn (c : Credentials) (profile old : Text) : Text :=
  Ini.setLine (Ini.setLine old (Naming.verbatim.sectionFor profile) idKey c.id)
    (Naming.verbatim.sectionFor profile) secretKey c.secret

/-- The text of a file after storing a region for a profile in it. -/
def Region.textIn (region profile old : Text) : Text :=
  Ini.setLine old (Naming.prefixed.sectionFor profile) key region

/-- A write that was to make a new text of what a file held before was broken off: a beginning of
the new text is in the file. -/
def Disk.Broken (d : Disk) (path : Text) (renewed : Text → Text) (d' : Disk) : Prop :=
  ∃ old n, d.Before path old ∧ d'.content path = .ok (.cut (renewed (old.getD [])) n)

namespace Selection

/-! ## Making a profile -/

/-- The user makes a profile: chooses to, names it and gives a pair for it. -/
structure Makes (prompt : Prompt) (catalog : Catalog) (name : Text) (c : Credentials) : Prop where
  /-- The user chooses the first option. -/
  chosen : prompt.answer [] (choice catalog) = .ok (0 : Nat)
  /-- The user types the name, perhaps with blanks around it. -/
  named : ∃ typed : Text,
    prompt.answer [choice catalog] (nameQuestion catalog) = .ok typed ∧ Text.trim typed = name
  /-- The name is not blank. -/
  visible : name ≠ []
  /-- The user gives a pair. -/
  gives : Credentials.Gives prompt [choice catalog, nameQuestion catalog] c

/-- The questions to a user who makes a profile. -/
def makingQuestions (catalog : Catalog) : List Question :=
  [choice catalog, nameQuestion catalog, Credentials.agreement, Credentials.idQuestion,
    Credentials.secretQuestion]

/-- The name of a profile that the user makes is typed. -/
theorem Makes.replied {prompt : Prompt} {catalog : Catalog} {name : Text} {c : Credentials}
    (makes : Makes prompt catalog name c) : ∃ typed : Text,
      prompt.Replied (makingQuestions catalog) (nameQuestion catalog) typed ∧
        typed.trim = name := by
  obtain ⟨typed, answered, trimmed⟩ := makes.named
  exact ⟨typed, ⟨[choice catalog], _, rfl, answered⟩, trimmed⟩

/-- So is its pair. -/
theorem Makes.typed {prompt : Prompt} {catalog : Catalog} {name : Text} {c : Credentials}
    (makes : Makes prompt catalog name c) :
    Credentials.Typed prompt (makingQuestions catalog) c where
  id := ⟨[choice catalog, nameQuestion catalog, Credentials.agreement],
    [Credentials.secretQuestion], rfl, makes.gives.id⟩
  secret := ⟨[choice catalog, nameQuestion catalog, Credentials.agreement,
    Credentials.idQuestion], [], rfl, makes.gives.secret⟩

/-- A run stores a pair: no profile is asked for by name, both files can be read, the user makes a
profile, and its pair can be saved. -/
structure Stores (l : Locations) (prompt : Prompt) (wishes : Wishes) (d : Disk) (name : Text)
    (c : Credentials) (host : Host := .willing) : Prop where
  /-- No profile is asked for by name. -/
  unnamed : wishes.profile.filter (· ≠ []) = none
  /-- The user makes a profile. -/
  makes : ∃ catalog, ((Catalog.discover l).outcome prompt (.start d) host).1 = .ok catalog ∧
    Makes prompt catalog name c
  /-- Its pair can be saved. -/
  saved : ((Credentials.save l.credentialsStore name c).outcome prompt (.start d) host).1 = .ok ()

/-- A run settles on a profile. -/
def Settles (l : Locations) (prompt : Prompt) (wishes : Wishes) (d : Disk) (profile : Text)
    (s : Session) (host : Host := .willing) : Prop :=
  ∃ catalog s₀, (Catalog.discover l).outcome prompt (.start d) host = (.ok catalog, s₀) ∧
    (settleProfile l catalog wishes.profile).outcome prompt s₀ host = (.ok profile, s)

/-- A host breaks a run off that would store a pair if nothing were refused. -/
structure BreaksKeys (l : Locations) (prompt : Prompt) (wishes : Wishes) (d : Disk) (host : Host)
    (name : Text) (c : Credentials) (reason : Text) : Prop where
  /-- No profile is asked for by name. -/
  unnamed : wishes.profile.filter (· ≠ []) = none
  /-- The user makes a profile. -/
  makes : ∃ catalog, ((Catalog.discover l).outcome prompt (.start d) host).1 = .ok catalog ∧
    Makes prompt catalog name c
  /-- Its pair could be saved. -/
  possible : ((Credentials.save l.credentialsStore name c).outcome prompt (.start d)).1 = .ok ()
  /-- The host refuses to. -/
  refused : ((Credentials.save l.credentialsStore name c).outcome prompt (.start d) host).1 =
    .error (Host.fault reason)

/-- A host breaks a run off that would store a region if nothing were refused from then on. -/
structure BreaksRegion (l : Locations) (prompt : Prompt) (suggested : Text) (wishes : Wishes)
    (d : Disk) (host : Host) (profile region reason : Text) : Prop where
  /-- The run has settled on a profile, whose region could be stored; the host refuses to. -/
  refused : ∃ s, Settles l prompt wishes d profile s host ∧
    ((settleRegion l suggested profile wishes.region).outcome prompt s).1 = .ok region ∧
    ((settleRegion l suggested profile wishes.region).outcome prompt s host).1 =
      .error (Host.fault reason)

end Selection

namespace Credentials

variable {store : Store} {prompt : Prompt} {s s' : Session} {host : Host} {name : Text}

/-- Asking for a pair leaves the disk alone, and a pair that it comes to was given. -/
theorem ask_cases {result : Except Fault (Option Credentials)}
    (ran : ask.outcome prompt s host = (result, s')) :
    s'.disk = s.disk ∧ ∀ c, result = .ok (some c) → Gives prompt s.asked c := by
  rcases Flow.cases_of_bind ran with ⟨fault, failed, rfl⟩ | ⟨agreed, s₁, first, ran⟩
  · obtain ⟨-, rfl⟩ := Flow.error_of_ask failed
    exact ⟨rfl, by simp⟩
  obtain ⟨yes, rfl⟩ := Flow.ok_of_ask first
  cases agreed with
  | false =>
    cases ran
    exact ⟨rfl, by simp⟩
  | true =>
    rcases Flow.cases_of_bind ran with ⟨fault, failed, rfl⟩ | ⟨id, s₂, second, ran⟩
    · obtain ⟨-, rfl⟩ := Flow.error_of_ask failed
      exact ⟨rfl, by simp⟩
    obtain ⟨named, rfl⟩ := Flow.ok_of_ask second
    rcases Flow.cases_of_bind ran with ⟨fault, failed, rfl⟩ | ⟨secret, s₃, third, ran⟩
    · obtain ⟨-, rfl⟩ := Flow.error_of_ask failed
      exact ⟨rfl, by simp⟩
    obtain ⟨told, rfl⟩ := Flow.ok_of_ask third
    dsimp only at ran
    split at ran
    · rename_i c accepted
      cases ran
      refine ⟨rfl, ?_⟩
      rintro c ⟨rfl⟩
      obtain ⟨rfl, long⟩ := ofTyped_eq_ok_iff.1 accepted
      exact ⟨yes, named, told, long⟩
    · cases ran
      exact ⟨rfl, by simp⟩

/-- Making the keys of a profile leaves the disk alone, or it ends as storing the given pair does
and does the same. -/
theorem createProfile_cases {result : Except Fault Unit}
    (ran : (createProfile store name).outcome prompt s host = (result, s')) :
    s'.disk = s.disk ∨ ∃ c, Gives prompt s.asked c ∧
      saving store name c s.disk host = (result, s'.disk) := by
  rcases Flow.cases_of_bind ran with ⟨fault, failed, rfl⟩ | ⟨answer, s₁, first, ran⟩
  · exact .inl (ask_cases failed).1
  obtain ⟨disk, gives⟩ := ask_cases first
  cases answer with
  | none =>
    cases ran
    exact .inl disk
  | some c =>
    obtain ⟨log, saved⟩ := outcome_save store name c prompt s₁ host
    have same := saved.symm.trans ran
    rw [disk] at same
    cases same
    exact .inr ⟨c, gives c rfl, rfl⟩

end Credentials

namespace Selection

variable {l : Locations} {prompt : Prompt} {d : Disk} {host : Host} {s s' : Session}
  {catalog : Catalog} {wishes : Wishes} {suggested : Text}

/-- Settling on a profile at the start of a run leaves the disk alone, or it ends as storing the
pair of a new profile does and does the same. -/
theorem settleProfile_cases {wish : Option Text} {result : Except Fault Text}
    (fresh : s.asked = [])
    (ran : (settleProfile l catalog wish).outcome prompt s host = (result, s')) :
    s'.disk = s.disk ∨ ∃ name c reply, wish.filter (· ≠ []) = none ∧
      Makes prompt catalog name c ∧
      Credentials.saving l.credentialsStore name c s.disk host = (reply, s'.disk) ∧
      result = reply.map fun _ => name := by
  rw [settleProfile] at ran
  split at ran
  -- A profile that is named is looked up, which writes nothing.
  · left
    split at ran <;> cases ran <;> rfl
  rename_i unnamed
  rcases Flow.cases_of_bind ran with ⟨fault, failed, rfl⟩ | ⟨index, s₁, first, ran⟩
  · obtain ⟨-, rfl⟩ := Flow.error_of_ask failed
    exact .inl rfl
  obtain ⟨chosen, rfl⟩ := Flow.ok_of_ask first
  rw [fresh] at chosen
  -- The first option makes a profile, the others are entries of the catalog.
  split at ran
  · rcases Flow.cases_of_bind ran with ⟨fault, failed, rfl⟩ | ⟨typed, s₂, second, ran⟩
    · obtain ⟨-, rfl⟩ := Flow.error_of_ask failed
      exact .inl rfl
    obtain ⟨named, rfl⟩ := Flow.ok_of_ask second
    dsimp only at ran
    rw [fresh] at named
    split at ran
    · cases ran
      exact .inl rfl
    · rename_i visible
      rcases Flow.cases_of_bind ran with ⟨fault, failed, -⟩ | ⟨_, s₃, logged, ran⟩
      · cases failed
      cases logged
      obtain ⟨reply, done, same⟩ : ∃ reply, (Credentials.createProfile l.credentialsStore
          (Text.trim typed)).outcome prompt _ host = (reply, s') ∧
          result = reply.map fun _ => Text.trim typed := by
        rcases Flow.cases_of_bind ran with ⟨fault, failed, rfl⟩ | ⟨_, s₄, done, ran⟩
        · exact ⟨_, failed, rfl⟩
        · cases ran
          exact ⟨_, done, rfl⟩
      have made := Credentials.createProfile_cases done
      rw [fresh] at made
      rcases made with disk | ⟨c, gives, saved⟩
      · exact .inl disk
      · exact .inr ⟨Text.trim typed, c, reply, unnamed, ⟨chosen, ⟨typed, named, rfl⟩,
          by simpa using visible, gives⟩, saved, same⟩
  · left
    split at ran <;> cases ran <;> rfl

/-- A profile that the user makes is the one that is settled on, once its pair is saved. -/
theorem Makes.outcome_settleProfile {name : Text} {c : Credentials} {wish : Option Text}
    (makes : Makes prompt catalog name c) (unnamed : wish.filter (· ≠ []) = none)
    (fresh : s.asked = [])
    (saved : (Credentials.saving l.credentialsStore name c s.disk host).1 = .ok ()) :
    ∃ log, (settleProfile l catalog wish).outcome prompt s host =
      (.ok name, ⟨(Credentials.saving l.credentialsStore name c s.disk host).2,
        makingQuestions catalog, log⟩) := by
  obtain ⟨typed, named, rfl⟩ := makes.named
  have chosen : (Flow.ask (choice catalog)).outcome prompt s host =
      (.ok (0 : Nat), { s with asked := [choice catalog] }) := by
    rw [Flow.outcome_ask, fresh, makes.chosen]
    rfl
  have answered : (Flow.ask (nameQuestion catalog)).outcome prompt
      { s with asked := [choice catalog] } host =
      (.ok typed, { s with asked := [choice catalog, nameQuestion catalog] }) := by
    rw [Flow.outcome_ask, named]
    rfl
  have visible : (Text.trim typed).isEmpty = false := by simpa using makes.visible
  obtain ⟨log, made⟩ := Credentials.Gives.outcome_createProfile
    (s := ⟨s.disk, [choice catalog, nameQuestion catalog],
      s.log ++ [⟨.info, "creating profile " ++ (Text.trim typed).quoted⟩]⟩) makes.gives
    l.credentialsStore (Text.trim typed) host
  refine ⟨log, ?_⟩
  rw [saved] at made
  rw [settleProfile, unnamed]
  apply (Flow.outcome_bind_of_ok prompt s chosen _).trans
  apply (Flow.outcome_bind_of_ok prompt _ answered _).trans
  simp only [visible]
  exact Flow.outcome_bind_of_ok prompt _ made _

/-! ## The steps of a run -/

/-- A run settles on one profile at most. -/
theorem Settles.unique {profile profile' : Text}
    (settles : Settles l prompt wishes d profile s host)
    (settles' : Settles l prompt wishes d profile' s' host) : profile = profile' ∧ s = s' := by
  obtain ⟨catalog, s₀, discovered, settled⟩ := settles
  obtain ⟨catalog', s₀', discovered', settled'⟩ := settles'
  cases discovered.symm.trans discovered'
  cases settled.symm.trans settled'
  exact ⟨rfl, rfl⟩

/-- Discovering profiles leaves a run as it started, but for the log. -/
theorem start_of_discover {result : Except Fault Catalog}
    (ran : (Catalog.discover l).outcome prompt (.start d) host = (result, s)) :
    s.disk = d ∧ s.asked = [] := (Catalog.discover_onlyLogs l).of_outcome ran

/-- How saving a pair ends depends on the disk alone. -/
theorem saving_fst_eq (store : Store) (name : Text) (c : Credentials) (prompt : Prompt)
    (s : Session) (host : Host) : (Credentials.saving store name c s.disk host).1 =
      ((Credentials.save store name c).outcome prompt s host).1 := by
  obtain ⟨log, outcome⟩ := Credentials.outcome_save store name c prompt s host
  rw [outcome]

/-- A run that stores a pair settles on its profile, and has stored it then. -/
theorem Stores.settles {name : Text} {c : Credentials}
    (stores : Stores l prompt wishes d name c host) :
    ∃ s₁, Settles l prompt wishes d name s₁ host ∧
      s₁.disk = (Credentials.saving l.credentialsStore name c d host).2 ∧
      ∃ catalog, Makes prompt catalog name c ∧ s₁.asked = makingQuestions catalog := by
  obtain ⟨catalog, found, makes⟩ := stores.makes
  obtain ⟨⟨reply, s₀⟩, discovered⟩ :
    ∃ ran, (Catalog.discover l).outcome prompt (.start d) host = ran := ⟨_, rfl⟩
  rw [discovered] at found
  obtain rfl : reply = .ok catalog := found
  obtain ⟨disk, fresh⟩ := start_of_discover discovered
  have saved := (saving_fst_eq _ _ _ _ _ _).trans stores.saved
  rw [Session.start, ← disk] at saved
  obtain ⟨log, settled⟩ := makes.outcome_settleProfile stores.unnamed fresh saved
  rw [disk] at settled
  exact ⟨_, ⟨catalog, s₀, discovered, settled⟩, rfl, catalog, makes, rfl⟩

/-- What a run that stores a pair has made of the credentials file then. -/
theorem Stores.puts {name : Text} {c : Credentials} {d' : Disk}
    (stores : Stores l prompt wishes d name c host)
    (disk : d' = (Credentials.saving l.credentialsStore name c d host).2) :
    ∃ old, d.Finds l.credentials old ∧
      d.Puts l.credentials (c.textIn name (old.getD [])) d' := by
  have saved : (Credentials.saving l.credentialsStore name c d host).1 = .ok () :=
    (saving_fst_eq _ _ _ prompt (.start d) _).trans stores.saved
  rcases Credentials.saving_ends host l.credentialsStore name c d with same | ⟨_, refused, -⟩
  · rw [same] at saved disk
    rcases Credentials.saving_cases l.credentialsStore name c d with
      ⟨fault, failed, -⟩ | ⟨-, content, keys, finds, read, -, puts⟩
    · cases saved.symm.trans failed
    · refine ⟨content, finds, ?_⟩
      rw [disk, ← text_of_documentOf read]
      exact puts
  · cases saved.symm.trans refused

/-- A run that does not store a pair makes directories at most before it asks for a region, unless
the host breaks it off. -/
theorem ends_of_not_stores {catalog : Catalog} {s₀ : Session} {result : Except Fault Text}
    (discovered : (Catalog.discover l).outcome prompt (.start d) host = (.ok catalog, s₀))
    (ran : (settleProfile l catalog wishes.profile).outcome prompt s₀ host = (result, s))
    (without : ¬∃ name c, Stores l prompt wishes d name c host) :
    d.MakesWay l.credentials s.disk ∨
    ∃ name c reason old n, BreaksKeys l prompt wishes d host name c reason ∧
      result = .error (Host.fault reason) ∧ d.Finds l.credentials old ∧
      d.Leaves l.credentials (.cut (c.textIn name (old.getD [])) n) s.disk := by
  obtain ⟨rfl, fresh⟩ := start_of_discover discovered
  rcases settleProfile_cases fresh ran with same | ⟨name, c, reply, unnamed, makes, saved, rfl⟩
  · exact .inl (same ▸ .refl _ _)
  have known : ∃ catalog, ((Catalog.discover l).outcome prompt (.start s₀.disk) host).1 =
      .ok catalog ∧ Makes prompt catalog name c := ⟨catalog, by rw [discovered], makes⟩
  have first := saving_fst_eq l.credentialsStore name c prompt (.start s₀.disk)
  have ends := Credentials.saving_ends host l.credentialsStore name c s₀.disk
  rw [saved] at ends
  rcases ends with same | ⟨reason, rfl, way | ⟨possible, content, keys, n, finds, read, part⟩⟩
  · rcases Credentials.saving_cases l.credentialsStore name c s₀.disk with
      ⟨fault, failed, way⟩ | ⟨done, -⟩
    · rw [← same] at way
      exact .inl way
    · rw [← same] at done
      refine absurd ⟨name, c, unnamed, known, (first host).symm.trans ?_⟩ without
      rw [Session.start, saved]
      exact done
  · exact .inl way
  · have text := text_of_documentOf read
    refine .inr ⟨name, c, reason, content, n, ⟨unnamed, known, (first _).symm.trans possible,
      (first host).symm.trans ?_⟩, rfl, finds, ?_⟩
    · rw [Session.start, saved]
    · rw [← text]
      exact part

/-- A run ends before it has stored anything, or it settles on a profile and ends with its
region. -/
theorem run_cases {result : Except Fault (Context × Text)}
    (ran : (run l suggested wishes).outcome prompt (.start d) host = (result, s')) :
    (∃ fault, result = .error fault ∧ (¬∃ name c, Stores l prompt wishes d name c host) ∧
      (d.MakesWay l.credentials s'.disk ∨
        ∃ name c reason old n, BreaksKeys l prompt wishes d host name c reason ∧
          fault = Host.fault reason ∧ d.Finds l.credentials old ∧
          d.Leaves l.credentials (.cut (c.textIn name (old.getD [])) n) s'.disk)) ∨
    ∃ profile s₁ reply, Settles l prompt wishes d profile s₁ host ∧
      (settleRegion l suggested profile wishes.region).outcome prompt s₁ host = (reply, s') ∧
      result = reply.map fun region =>
        (.of profile region, Context.describe region wishes.description) := by
  rcases Flow.cases_of_bind ran with ⟨fault, failed, rfl⟩ | ⟨catalog, s₀, discovered, ran⟩
  · refine .inl ⟨fault, rfl, ?_, .inl ((start_of_discover failed).1 ▸ .refl _ _)⟩
    rintro ⟨name, c, stores⟩
    obtain ⟨catalog, found, -⟩ := stores.makes
    rw [failed] at found
    cases found
  rcases Flow.cases_of_bind ran with ⟨fault, failed, rfl⟩ | ⟨profile, s₁, settled, ran⟩
  · have without : ¬∃ name c, Stores l prompt wishes d name c host := by
      rintro ⟨name, c, stores⟩
      obtain ⟨s₁, ⟨catalog', s₀', discovered', settled⟩, -⟩ := stores.settles
      cases discovered.symm.trans discovered'
      cases failed.symm.trans settled
    refine .inl ⟨fault, rfl, without, ?_⟩
    rcases ends_of_not_stores discovered failed without with
      makes | ⟨name, c, reason, old, n, breaks, same, finds, part⟩
    · exact .inl makes
    · exact .inr ⟨name, c, reason, old, n, breaks, Except.error.inj same, finds, part⟩
  · right
    rcases Flow.cases_of_bind ran with ⟨fault, failed, rfl⟩ | ⟨region, s₂, done, ran⟩
    · exact ⟨profile, s₁, .error fault, ⟨catalog, s₀, discovered, settled⟩, failed, rfl⟩
    · cases ran
      exact ⟨profile, s₁, .ok region, ⟨catalog, s₀, discovered, settled⟩, done, rfl⟩

/-- Settling on a region spares the config file, or it succeeds after asking and puts the region
into what a reader found, or the host breaks it off. -/
theorem settleRegion_cases {profile : Text} {wish : Option Text} {reply : Except Fault Text}
    (ran : (settleRegion l suggested profile wish).outcome prompt s host = (reply, s')) :
    (s.disk.MakesWay l.config s'.disk ∧
      (wish.filter (· ≠ []) = none → ∃ fault, reply = .error fault)) ∨
    (wish.filter (· ≠ []) = none ∧ ∃ region content, reply = .ok region ∧
      s.disk.Finds l.config content ∧
      s.disk.Puts l.config (Region.textIn region profile (content.getD [])) s'.disk) ∨
    ∃ reason region content n, reply = .error (Host.fault reason) ∧
      ((settleRegion l suggested profile wish).outcome prompt s).1 = .ok region ∧
      s.disk.Finds l.config content ∧
      s.disk.Leaves l.config (.cut (Region.textIn region profile (content.getD [])) n)
        s'.disk := by
  rw [settleRegion] at ran ⊢
  split at ran
  · rename_i named
    cases ran
    exact .inl ⟨.refl _ _, fun unnamed => by rw [unnamed] at named; cases named⟩
  · rename_i unnamed
    rw [unnamed]
    rcases Region.resolve_ends ran with ⟨fault, rfl, makes⟩ |
      ⟨region, content, settings, rfl, -, -, finds, read, puts⟩ |
      ⟨reason, region, content, settings, n, rfl, possible, finds, read, part⟩
    · exact .inl ⟨makes, fun _ => ⟨fault, rfl⟩⟩
    · refine .inr (.inl ⟨rfl, region, content, rfl, finds, ?_⟩)
      rw [← text_of_documentOf read]
      exact puts
    · refine .inr (.inr ⟨reason, region, content, n, rfl, possible, finds, ?_⟩)
      rw [← text_of_documentOf read]
      exact part

/-! ## What the steps leave -/

/-- A run has changed the files by exactly the steps that it has completed, but for a write that the
host broke off. -/
structure Completes (l : Locations) (prompt : Prompt) (suggested : Text) (wishes : Wishes)
    (d : Disk) (result : Except Fault (Context × Text)) (s' : Session)
    (host : Host := .willing) : Prop where
  /-- A pair that is stored stands in the credentials file, in what the file held before. -/
  keys : ∀ {name c}, Stores l prompt wishes d name c host → ∃ old, d.Before l.credentials old ∧
    s'.disk.read l.credentials = .ok (c.textIn name (old.getD []))
  /-- A run that stores no pair spares this file, or it fails while it stores one. -/
  withoutKeys : (¬∃ name c, Stores l prompt wishes d name c host) →
    d.Spares l.credentials s'.disk ∨
      ∃ name c reason, BreaksKeys l prompt wishes d host name c reason ∧
        result = .error (Host.fault reason) ∧ d.Broken l.credentials (c.textIn name) s'.disk
  /-- A run that fails spares the config file, or it fails while it stores a region. -/
  failed : ∀ fault, result = .error fault →
    d.Spares l.config s'.disk ∨
      ∃ profile region reason, BreaksRegion l prompt suggested wishes d host profile region reason ∧
        fault = Host.fault reason ∧ d.Broken l.config (Region.textIn region profile) s'.disk
  /-- If it has stored a pair, it fails at the region. -/
  failedLate : ∀ fault, result = .error fault →
    ∀ {name c}, Stores l prompt wishes d name c host → ∃ s₁,
      Settles l prompt wishes d name s₁ host ∧
      (settleRegion l suggested name wishes.region).outcome prompt s₁ host = (.error fault, s')
  /-- A run that succeeds with a region asked for by name spares the config file. -/
  named : ∀ context, result = .ok context → wishes.region.filter (· ≠ []) ≠ none →
    d.Spares l.config s'.disk
  /-- Else the region of the context stands in the config file, for the profile that the run has
  settled on, in what the file held before. -/
  asked : ∀ context description, result = .ok (context, description) →
    wishes.region.filter (· ≠ []) = none →
    ∃ profile s₁ old, Settles l prompt wishes d profile s₁ host ∧
      context = .of profile context.region ∧ d.Before l.config old ∧
      s'.disk.read l.config = .ok (Region.textIn context.region profile (old.getD []))

/-- What a run has made of the credentials file when it comes to the region. -/
theorem keys_of_settles {profile : Text} (settles : Settles l prompt wishes d profile s host) :
    (∀ {name c}, Stores l prompt wishes d name c host → ∃ old, d.Finds l.credentials old ∧
      d.Puts l.credentials (c.textIn name (old.getD [])) s.disk) ∧
    ((¬∃ name c, Stores l prompt wishes d name c host) → d.MakesWay l.credentials s.disk) := by
  constructor
  · intro name c stores
    obtain ⟨s₁, settles', disk, -⟩ := stores.settles
    obtain ⟨-, rfl⟩ := settles.unique settles'
    exact stores.puts disk
  · intro without
    obtain ⟨catalog, s₀, discovered, settled⟩ := settles
    rcases ends_of_not_stores discovered settled without with
      makes | ⟨name, c, reason, old, n, -, failed, -⟩
    · exact makes
    · cases failed

/-- What a run has made of the config file when it comes to the region. -/
theorem settings_of_settles {profile : Text} (apart : Path.Apart d.directory l.credentials l.config)
    (settles : Settles l prompt wishes d profile s host) :
    s.disk.directory = d.directory ∧ d.Spares l.config s.disk ∧
      ∀ {content}, s.disk.Finds l.config content → d.Before l.config content := by
  obtain ⟨stored, unstored⟩ := keys_of_settles settles
  by_cases storing : ∃ name c, Stores l prompt wishes d name c host
  · obtain ⟨name, c, stores⟩ := storing
    obtain ⟨old, -, puts⟩ := stored stores
    exact ⟨puts.directory, puts.spares_other apart, fun finds => puts.before apart finds⟩
  · have makes := unstored storing
    exact ⟨makes.directory, makes.spares_other apart, fun finds => makes.before finds⟩

/-- A run that has settled on a profile has completed its steps when it ends with the region. -/
theorem completes_of_settles {profile : Text} {s₁ : Session} {reply : Except Fault Text}
    (apart : Path.Apart d.directory l.credentials l.config)
    (settles : Settles l prompt wishes d profile s₁ host)
    (ran : (settleRegion l suggested profile wishes.region).outcome prompt s₁ host = (reply, s')) :
    Completes l prompt suggested wishes d
      (reply.map fun region => (.of profile region, Context.describe region wishes.description))
      s' host := by
  obtain ⟨stored, unstored⟩ := keys_of_settles settles
  obtain ⟨directory, spares, before⟩ := settings_of_settles apart settles
  have apart' : Path.Apart s₁.disk.directory l.config l.credentials := directory ▸ apart.symm
  have step := settleRegion_cases ran
  have keysSpared : s₁.disk.Spares l.credentials s'.disk := by
    rcases step with ⟨makes, -⟩ | ⟨-, region, content, -, -, puts⟩ |
      ⟨reason, region, content, n, -, -, -, part⟩
    · exact makes.spares_other apart'
    · exact puts.spares_other apart'
    · exact part.spares_other apart'
  refine ⟨fun stores => ?_, fun without => ?_, fun fault same => ?_,
    fun fault same {name c} stores => ?_, fun context same named => ?_,
    fun context description same unnamed => ?_⟩
  · obtain ⟨old, finds, puts⟩ := stored stores
    exact ⟨old, finds.before, keysSpared.read puts.read⟩
  · exact .inl ((unstored without).spares.trans keysSpared)
  · cases reply with
    | ok region => cases same
    | error fault' =>
      cases same
      rcases step with ⟨makes, -⟩ | ⟨-, region, content, failed, -⟩ |
        ⟨reason, region, content, n, failed, possible, finds, part⟩
      · exact .inl (spares.trans makes.spares)
      · cases failed
      · cases failed
        exact .inr ⟨profile, region, reason, ⟨s₁, settles, possible, by rw [ran]⟩, rfl, content, n,
          before finds, part.content⟩
  · cases reply with
    | ok region => cases same
    | error fault' =>
      cases same
      obtain ⟨s₂, settles', -⟩ := stores.settles
      obtain ⟨rfl, rfl⟩ := settles.unique settles'
      exact ⟨s₁, settles, ran⟩
  · rcases step with ⟨makes, -⟩ | ⟨unnamed, -⟩ | ⟨reason, region, content, n, failed, -⟩
    · exact spares.trans makes.spares
    · exact absurd unnamed named
    · rw [failed] at same
      cases same
  · cases reply with
    | error fault => cases same
    | ok region =>
      cases same
      rcases step with ⟨-, fails⟩ | ⟨-, region', content, done, finds, puts⟩ |
        ⟨reason, region, content, n, failed, -⟩
      · obtain ⟨fault, failed⟩ := fails unnamed
        cases failed
      · cases done
        exact ⟨profile, s₁, content, settles, rfl, before finds, puts.read⟩
      · cases failed

/-- A host that refuses nothing breaks nothing off: a run on it leaves no half-done write. -/
theorem Completes.spares {result : Except Fault (Context × Text)}
    (completes : Completes l prompt suggested wishes d result s') :
    ((¬∃ name c, Stores l prompt wishes d name c) → d.Spares l.credentials s'.disk) ∧
      ∀ fault, result = .error fault → d.Spares l.config s'.disk := by
  refine ⟨fun without => ?_, fun fault same => ?_⟩
  · rcases completes.withoutKeys without with spares | ⟨name, c, reason, breaks, -⟩
    · exact spares
    · cases breaks.possible.symm.trans breaks.refused
  · rcases completes.failed fault same with spares | ⟨profile, region, reason, breaks, -⟩
    · exact spares
    · obtain ⟨s, -, possible, refused⟩ := breaks.refused
      cases possible.symm.trans refused

/-- The user who makes a profile and leaves when asked for its region. -/
def leaving : Prompt where
  answer _ q :=
    match q with
    | .select _ _ => .ok (0 : Nat)
    | .input title _ =>
      if title = ("Region" : Text) then .error .canceled
      else if title = ("profile name" : Text) then .ok " work" else .ok "AKIA"
    | .password _ => .ok "abcd"
    | .confirm _ _ => .ok true

/-- The host that sets no modes. -/
def modeless : Host :=
  { Host.willing with unset? := fun _ _ => some "Operation not permitted (os error 1)" }

/-- The host that has no room for a fifth byte. -/
def crowded : Host :=
  { Host.willing with
    unwritten? := fun _ _ _ => some (some 4, "No space left on device (os error 28)") }

/-- A run ends like this and does not leave the file at a path alone, though it stores no pair. -/
def Oversteps (l : Locations) (prompt : Prompt) (wishes : Wishes) (d : Disk) (path : Text)
    (result : Except Fault (Context × Text)) (host : Host := .willing) : Prop :=
  ∃ s', (run l [] wishes).outcome prompt (.start d) host = (result, s') ∧
    (¬∃ name c, Stores l prompt wishes d name c host) ∧ ¬d.Spares path s'.disk

/-- A run for a profile that is named stores no pair. -/
theorem oversteps_of_named {path profile : Text} {result : Except Fault (Context × Text)}
    (named : wishes.profile.filter (· ≠ []) = some profile)
    (ran : ((run l [] wishes).outcome prompt (.start d) host).1 = result)
    (changed : ((run l [] wishes).outcome prompt (.start d) host).2.disk.file? path ≠
      d.file? path) : Oversteps l prompt wishes d path result host := by
  refine ⟨_, Prod.ext ran rfl, ?_, fun spares => changed spares.file⟩
  rintro ⟨name, c, stores⟩
  cases stores.unnamed.symm.trans named

end Selection

end ProfilePicker
