import ProfilePicker.Proofs.Elsewhere
import ProfilePicker.Proofs.SideBySide

/-!
# The secret

Two users reply alike, except that they type different secrets. Their runs end alike, ask and log
the same and leave the same disk, apart from the file of the keys: there the two secrets stand in
the same place of the same text. This is so for secrets with any characters, even those that break
the lines of the file.
-/
namespace ProfilePicker

open Ini (Document)
open ProfilePicker.Flow (Alike Along)

/-- Two users who reply alike, except that one may type another secret than the other where both
type one that is long enough. -/
structure Prompt.AlikeButSecret (p q : Prompt) : Prop where
  /-- They reply alike to all other questions. -/
  others : ∀ asked question, (∀ title, question ≠ .password title) →
    p.answer asked question = q.answer asked question
  /-- They reply alike to the question for a secret, or both with one that is long enough. -/
  secrets : ∀ asked title, p.answer asked (.password title) = q.answer asked (.password title) ∨
    ∃ x y : Text, p.answer asked (.password title) = .ok x ∧
      q.answer asked (.password title) = .ok y ∧
      Credentials.leastLength ≤ x.length ∧ Credentials.leastLength ≤ y.length

/-- A value stands in a text at a place that does not depend on it. -/
theorem Ini.exists_around (s name key : Text) :
    ∃ u w : Text, ∀ value, Ini.setLine s name key value = u ++ value ++ w := by
  refine ⟨Text.joinLines s.lineEnding (Ini.seam name key s.lines).1 ++ key ++ " = ",
    s.lineEnding ++ Text.joinLines s.lineEnding (Ini.seam name key s.lines).2, fun value => ?_⟩
  rw [Ini.setLine_eq, Ini.entryLine]
  simp only [List.append_assoc]

namespace Selection

variable {l : Locations} {p q : Prompt}

/-! ## Sessions of two runs -/

/-- Two runs are in the same state, in which the two files do not meet. -/
def Together (l : Locations) (s t : Session) : Prop :=
  s = t ∧ Path.Apart s.disk.directory l.credentials l.config

/-- Two secrets have been typed in runs that are in the same state. -/
structure Told (l : Locations) (p q : Prompt) (x y : Text) (s t : Session) : Prop where
  /-- The runs are in the same state. -/
  together : Together l s t
  /-- One user has typed one secret. -/
  first : p.Replied s.asked Credentials.secretQuestion x
  /-- The other user has typed the other one. -/
  second : q.Replied s.asked Credentials.secretQuestion y

/-- Two runs are in the same state but for the secret in the file of the keys. -/
inductive SameButSecret (l : Locations) (p q : Prompt) : Session → Session → Prop
  /-- They are in the same state. -/
  | same {s t : Session} (together : Together l s t) : SameButSecret l p q s t
  /-- The secrets that were typed stand in the same place of the same text. -/
  | secret {s : Session} {x y u w : Text} {mode : Nat} (told : Told l p q x y s s)
      (stands : s.disk.node (s.disk.place l.credentials) =
        some (.file (.text (u ++ x ++ w)) mode)) :
      SameButSecret l p q s
        ⟨s.disk.put (s.disk.place l.credentials) (.file (.text (u ++ y ++ w)) mode), s.asked, s.log⟩

/-- To be in the same state lasts. -/
theorem lasting_together : Session.Lasting (Together l) where
  asked together := congrArg Session.asked together.1
  log line together := ⟨by rw [together.1], together.2⟩
  ask question together := ⟨by rw [together.1], together.2⟩

/-- That two secrets have been typed lasts. -/
theorem lasting_told {x y : Text} : Session.Lasting (Told l p q x y) where
  asked told := lasting_together.asked told.together
  log line told := ⟨lasting_together.log line told.together, told.first, told.second⟩
  ask question told := ⟨lasting_together.ask question told.together,
    told.first.later (List.prefix_append _ _), told.second.later (List.prefix_append _ _)⟩

/-- To be in the same state but for the secret lasts. -/
theorem lasting_sameButSecret : Session.Lasting (SameButSecret l p q) where
  asked related := by
    cases related with
    | same together => exact lasting_together.asked together
    | secret told stands => rfl
  log line related := by
    cases related with
    | same together => exact .same (lasting_together.log line together)
    | secret told stands => exact .secret (lasting_told.log line told) stands
  ask question related := by
    cases related with
    | same together => exact .same (lasting_together.ask question together)
    | secret told stands => exact .secret (lasting_told.ask question told) stands

/-- Flows that only log go alike from the same state. -/
theorem alike_of_onlyLogs {α : Type} {f : Flow α} (only : f.OnlyLogs) :
    Alike p q (SameButSecret l p q) (Together l) (Along (Together l)) f f :=
  only.alike (fun _ _ together => together.1) (fun _ _ together => ⟨rfl, together.2⟩)
    fun _ _ => .same

/-- Two secrets that have been typed do not matter to such flows. -/
theorem told_alike_of_onlyLogs {α : Type} {x y : Text} {f : Flow α} (only : f.OnlyLogs) :
    Alike p q (SameButSecret l p q) (Told l p q x y) (Along (Told l p q x y)) f f :=
  only.alike (fun _ _ told => told.together.1)
    (fun _ _ told => ⟨⟨rfl, told.together.2⟩, told.first, told.second⟩)
    fun _ _ told => .same told.together

/-! ## Writes of two runs -/

/-- A write leaves the program in its directory. -/
theorem directory_writing (store : Store) (t : Text) (d : Disk) :
    (store.writing t d).2.directory = d.directory := by
  rcases store.writing_cases t d with ⟨fault, -, makes⟩ | ⟨-, puts⟩
  · exact makes.directory
  · exact puts.directory

/-- After a write the two files still do not meet. -/
theorem apart_writing {s : Session} (store : Store) (t : Text)
    (apart : Path.Apart s.disk.directory l.credentials l.config) :
    Path.Apart (store.writing t s.disk).2.directory l.credentials l.config := by
  rw [directory_writing]
  exact apart

/-- A write leaves what stands at other places, off the way to its own. -/
theorem node_writing (store : Store) (t : Text) {d : Disk} {place : Place}
    (outside : place ∉ Path.way d.directory store.path) (away : place ≠ d.place store.path) :
    (store.writing t d).2.node place = d.node place := by
  rcases store.writing_cases t d with ⟨fault, -, makes⟩ | ⟨-, puts⟩
  · exact (makes.node _).resolve_right fun made => outside made.1
  · exact (puts.node _ away).resolve_right fun made => outside made.1

/-- The same text is written in the same state. -/
theorem write_told {x y : Text} (store : Store) (t : Text) :
    Alike p q (SameButSecret l p q) (Told l p q x y) (Along (Told l p q x y)) (store.write t)
      (store.write t) := by
  refine Store.write_alike fun s s' told => ?_
  obtain ⟨⟨rfl, apart⟩, first, second⟩ := told
  have after := apart_writing store t apart
  rcases store.writing_cases t s.disk with ⟨fault, failed, -⟩ | ⟨done, -⟩
  · exact .inl ⟨fault, failed, failed, .same ⟨rfl, after⟩⟩
  · exact .inr ⟨done, done, ⟨rfl, after⟩, first, second⟩

/-- Two texts that differ in the secret are written into the file of the keys. -/
theorem write_secrets {x y u w : Text} :
    Alike p q (SameButSecret l p q) (Told l p q x y) (Along (SameButSecret l p q))
      (l.credentialsStore.write (u ++ x ++ w)) (l.credentialsStore.write (u ++ y ++ w)) := by
  refine Store.write_alike fun s s' told => ?_
  obtain ⟨⟨rfl, apart⟩, first, second⟩ := told
  rcases l.credentialsStore.writing_eq s.disk with ⟨fault, made, failed⟩ | ⟨made, mode, done⟩
  · left
    have after := apart_writing l.credentialsStore [] apart
    rw [failed] at after
    refine ⟨fault, by rw [failed], by rw [failed], ?_⟩
    rw [failed, failed]
    exact .same ⟨rfl, after⟩
  · right
    have directory := directory_writing l.credentialsStore [] s.disk
    rw [done] at directory
    have place : (made.put (s.disk.place l.credentials) (.file (.text (u ++ x ++ w)) mode)).place
        l.credentials = s.disk.place l.credentials :=
      congrArg (Path.place · l.credentials) directory
    refine ⟨by rw [done], by rw [done], ?_⟩
    rw [done, done]
    have after : Told l p q x y
        ⟨made.put (s.disk.place l.credentials) (.file (.text (u ++ x ++ w)) mode), s.asked, s.log⟩
        ⟨made.put (s.disk.place l.credentials) (.file (.text (u ++ x ++ w)) mode), s.asked,
          s.log⟩ :=
      ⟨⟨rfl, directory.symm ▸ apart⟩, first, second⟩
    have written : (made.put (s.disk.place l.credentials) (.file (.text (u ++ x ++ w)) mode)).node
        ((made.put (s.disk.place l.credentials) (.file (.text (u ++ x ++ w)) mode)).place
          l.credentials) = some (.file (.text (u ++ x ++ w)) mode) := by
      rw [place]
      exact if_pos rfl
    have related := SameButSecret.secret after written
    dsimp only at related
    rw [place, Disk.put_put] at related
    exact related

/-- A text is written into the config file, past the secret in the other one. -/
theorem write_settings (t : Text) :
    Alike p q (SameButSecret l p q) (SameButSecret l p q) (Along (SameButSecret l p q))
      (l.configStore.write t) (l.configStore.write t) := by
  refine Store.write_alike fun s s' related => ?_
  cases related with
  | same together =>
    obtain ⟨rfl, apart⟩ := together
    have after := apart_writing l.configStore t apart
    rcases l.configStore.writing_cases t s.disk with ⟨fault, failed, -⟩ | ⟨done, -⟩
    · exact .inl ⟨fault, failed, failed, .same ⟨rfl, after⟩⟩
    · exact .inr ⟨done, done, .same ⟨rfl, after⟩⟩
  | @secret x y u w mode told stands =>
    have apart := told.together.2
    have outside : s.disk.place l.credentials ∉ Path.way s.disk.directory l.config := apart.first
    have away : s.disk.place l.credentials ≠ s.disk.place l.config := apart.ne
    have directory := directory_writing l.configStore t s.disk
    have place : (l.configStore.writing t s.disk).2.place l.credentials =
        s.disk.place l.credentials := congrArg (Path.place · l.credentials) directory
    have after : Told l p q x y ⟨(l.configStore.writing t s.disk).2, s.asked, s.log⟩
        ⟨(l.configStore.writing t s.disk).2, s.asked, s.log⟩ :=
      ⟨⟨rfl, apart_writing l.configStore t apart⟩, told.first, told.second⟩
    have written : (l.configStore.writing t s.disk).2.node
        ((l.configStore.writing t s.disk).2.place l.credentials) =
          some (.file (.text (u ++ x ++ w)) mode) := by
      rw [place, node_writing l.configStore t outside away]
      exact stands
    have related := SameButSecret.secret after written
    dsimp only at related
    rw [place] at related
    -- The second run starts with the other secret in the file, and writing past it commutes with
    -- putting it there.
    rw [Store.writing_put outside away]
    rcases l.configStore.writing_cases t s.disk with ⟨fault, failed, -⟩ | ⟨done, -⟩
    · exact .inl ⟨fault, failed, failed, related⟩
    · exact .inr ⟨done, done, related⟩

/-! ## The flows of two runs -/

/-- The sections of a document after storing a pair do not depend on the secret. -/
theorem sections_storeIn (id x y profile : Text) (d : Document) :
    (Credentials.storeIn ⟨id, x⟩ profile d).sections =
      (Credentials.storeIn ⟨id, y⟩ profile d).sections := by
  simp only [Credentials.storeIn, Document.sections_set]

/-- Two pairs that differ in the secret are put into the file that is there. -/
theorem storing_alike {x y : Text} (id profile : Text) :
    Alike p q (SameButSecret l p q) (Told l p q x y) (Along (SameButSecret l p q))
      (do
        l.credentialsStore.save (Credentials.storeIn ⟨id, x⟩ profile (← l.credentialsStore.load))
        Flow.info ("stored credentials for profile " ++ profile.quoted ++ " in " ++
          l.credentialsStore.path))
      (do
        l.credentialsStore.save (Credentials.storeIn ⟨id, y⟩ profile (← l.credentialsStore.load))
        Flow.info ("stored credentials for profile " ++ profile.quoted ++ " in " ++
          l.credentialsStore.path)) := by
  refine (told_alike_of_onlyLogs l.credentialsStore.load_onlyLogs).bindSame fun d => ?_
  obtain ⟨u, w, around⟩ := Ini.exists_around
    (Ini.setLine d.text (Naming.verbatim.sectionFor profile) Credentials.idKey id)
    (Naming.verbatim.sectionFor profile) Credentials.secretKey
  have texts : ∀ z, (Credentials.storeIn ⟨id, z⟩ profile d).text = u ++ z ++ w := around
  have saving : Alike p q (SameButSecret l p q) (Told l p q x y) (Along (SameButSecret l p q))
      (l.credentialsStore.save (Credentials.storeIn ⟨id, x⟩ profile d))
      (l.credentialsStore.save (Credentials.storeIn ⟨id, y⟩ profile d)) := by
    -- What is logged of a document is the number of its sections.
    refine Store.save_alike lasting_sameButSecret
      (congrArg List.length (sections_storeIn id x y profile d)) ?_
    rw [texts, texts]
    exact write_secrets
  exact saving.bindSame fun _ => .log lasting_sameButSecret _ _

/-- Two pairs that differ in the secret are stored. -/
theorem save_alike {x y : Text} (id profile : Text) :
    Alike p q (SameButSecret l p q) (Told l p q x y) (Along (SameButSecret l p q))
      (Credentials.save l.credentialsStore profile ⟨id, x⟩)
      (Credentials.save l.credentialsStore profile ⟨id, y⟩) := by
  have wider : ∀ s t, Told l p q x y s t → SameButSecret l p q s t :=
    fun s t told => .same told.together
  refine (told_alike_of_onlyLogs
    (Credentials.retrieve_onlyLogs l.credentialsStore profile).attempt).bindSame fun retrieved => ?_
  rcases retrieved with (subject | _ | _ | _ | path | _ | _ | _ | _ | _) | c
  case error.missingFile =>
    have creating : Alike p q (SameButSecret l p q) (Told l p q x y) (Along (Told l p q x y))
        l.credentialsStore.createEmpty l.credentialsStore.createEmpty :=
      (write_told l.credentialsStore []).bindSame fun _ => .log lasting_told _ _
    exact creating.bindSame fun _ => storing_alike id profile
  case error.notFound => exact storing_alike id profile
  all_goals exact .throw _ wider

/-- What asking for a pair comes to in two runs: no pair, or two that differ in the secret. -/
inductive Given (l : Locations) (p q : Prompt) :
    Option Credentials → Option Credentials → Session → Session → Prop
  /-- No pair is given. -/
  | none {s t : Session} (together : Together l s t) : Given l p q none none s t
  /-- Two pairs are given. -/
  | some {id x y : Text} {s t : Session} (told : Told l p q x y s t) :
    Given l p q (some ⟨id, x⟩) (some ⟨id, y⟩) s t

variable (users : p.AlikeButSecret q)

include users in
/-- A question that is not for a secret is asked. -/
theorem ask_alike {question : Question} (open_ : ∀ title, question ≠ .password title) :
    Alike p q (SameButSecret l p q) (Together l) (Along (Together l)) (Flow.ask question)
      (Flow.ask question) :=
  .ask lasting_together (fun _ _ => .same) fun asked => users.others asked question open_

include users in
/-- The question for a secret is asked. -/
theorem ask_secret : Alike p q (SameButSecret l p q) (Together l)
    (fun (x y : Text) s t => Told l p q x y s t ∧
      (x = y ∨ Credentials.leastLength ≤ x.length ∧ Credentials.leastLength ≤ y.length))
    (Flow.ask (.password "Enter AWS Secret Access Key"))
    (Flow.ask (.password "Enter AWS Secret Access Key")) := by
  rintro s _ ⟨rfl, apart⟩
  have together : Together l { s with asked := s.asked ++ [Credentials.secretQuestion] }
      { s with asked := s.asked ++ [Credentials.secretQuestion] } := ⟨rfl, apart⟩
  rw [Flow.outcome_ask, Flow.outcome_ask]
  rcases users.secrets s.asked "Enter AWS Secret Access Key" with same |
    ⟨x, y, first, second, long⟩
  · cases first : p.answer s.asked (.password "Enter AWS Secret Access Key") with
    | error fault =>
      rw [← same, first]
      exact .error fault (.same together)
    | ok x =>
      have second := same.symm.trans first
      rw [second]
      exact .ok ⟨⟨together, Prompt.replied_concat first, Prompt.replied_concat second⟩, .inl rfl⟩
  · rw [first, second]
    exact .ok ⟨⟨together, Prompt.replied_concat first, Prompt.replied_concat second⟩, .inr long⟩

include users in
/-- A pair is asked for. -/
theorem askPair_alike : Alike p q (SameButSecret l p q) (Together l) (Given l p q)
    Credentials.ask Credentials.ask := by
  refine (ask_alike users (by simp)).bindSame fun agreed => ?_
  cases agreed with
  | false => exact .pure fun _ _ => .none
  | true =>
    refine (ask_alike users (by simp)).bindSame fun id => (ask_secret users).bind fun x y => ?_
    -- Two secrets that differ are both long enough, so the pairs are refused together: for the id.
    rintro s t ⟨told, rfl | ⟨long, long'⟩⟩
    · cases accepted : Credentials.ofTyped id x with
      | error fault => exact .error fault (.same told.together)
      | ok c =>
        obtain ⟨rfl, -⟩ := Credentials.ofTyped_eq_ok_iff.1 accepted
        exact .ok (.some told)
    · by_cases longId : Credentials.leastLength ≤ id.length
      · have accepted := Credentials.ofTyped_eq_ok_iff.2 ⟨rfl, longId, long⟩
        have accepted' := Credentials.ofTyped_eq_ok_iff.2 ⟨rfl, longId, long'⟩
        rw [accepted, accepted']
        exact .ok (.some told)
      · have refused : ∀ z : Text, Credentials.ofTyped id z = .error Credentials.tooShort := by
          intro z
          have short : id.length < Credentials.leastLength := by omega
          simp [Credentials.ofTyped, short]
        rw [refused, refused]
        exact .error _ (.same told.together)

include users in
/-- The keys of a profile are made. -/
theorem createProfile_alike (profile : Text) :
    Alike p q (SameButSecret l p q) (Together l) (Along (SameButSecret l p q))
      (Credentials.createProfile l.credentialsStore profile)
      (Credentials.createProfile l.credentialsStore profile) := by
  refine (askPair_alike users).bind fun answer answer' s t given => ?_
  cases given with
  | none together => exact Alike.log lasting_sameButSecret _ _ s t (.same together)
  | some told => exact save_alike _ profile s t told

include users in
/-- A profile is settled on. -/
theorem settleProfile_alike (catalog : Catalog) (wish : Option Text) :
    Alike p q (SameButSecret l p q) (Together l) (Along (SameButSecret l p q))
      (settleProfile l catalog wish) (settleProfile l catalog wish) :=
  settleProfile_alike_of (fun _ _ => .same) (fun _ => ask_alike users) wish (fun _ _ => .same)
    (create_alike_of lasting_together (fun _ _ => .same) (fun _ => ask_alike users) catalog
      (createProfile_alike users))

/-- In the config file, two runs find the same. -/
theorem find_alike (s t : Session) (related : SameButSecret l p q s t) :
    l.configStore.find s.disk = l.configStore.find t.disk := by
  cases related with
  | same together => rw [together.1]
  | secret told stands =>
    have apart := told.together.2
    have same : ∀ n, l.configStore.find (s.disk.put (s.disk.place l.credentials) n) =
        l.configStore.find s.disk := Store.find_put apart.first apart.ne
    exact (same _).symm

include users in
/-- A region is resolved. -/
theorem resolve_alike (suggested profile : Text) :
    Alike p q (SameButSecret l p q) (SameButSecret l p q) (Along (SameButSecret l p q))
      (Region.resolve l.configStore suggested profile)
      (Region.resolve l.configStore suggested profile) := by
  have lasting := lasting_sameButSecret (l := l) (p := p) (q := q)
  have asks : ∀ question : Question, (∀ title, question ≠ .password title) →
      Alike p q (SameButSecret l p q) (SameButSecret l p q) (Along (SameButSecret l p q))
        (Flow.ask question) (Flow.ask question) :=
    fun question open_ => .ask lasting (fun _ _ => id) fun asked =>
      users.others asked question open_
  exact Region.resolve_alike_of lasting (fun _ _ => id) asks suggested profile lasting
    (Store.loadOrEmpty_alike lasting (fun _ _ => id) find_alike) fun _ _ => write_settings _

include users in
/-- The selection is run. -/
theorem run_alike (suggested : Text) (wishes : Wishes) :
    Alike p q (SameButSecret l p q) (Together l) (Along (SameButSecret l p q))
      (run l suggested wishes) (run l suggested wishes) := by
  refine (alike_of_onlyLogs (Catalog.discover_onlyLogs l)).bindSame fun catalog => ?_
  refine (settleProfile_alike users catalog wishes.profile).bindSame fun profile => ?_
  have settling : Alike p q (SameButSecret l p q) (SameButSecret l p q)
      (Along (SameButSecret l p q))
      (settleRegion l suggested profile wishes.region)
      (settleRegion l suggested profile wishes.region) := by
    rw [settleRegion]
    split
    · exact .same _
    · exact resolve_alike users suggested profile
  exact settling.bindSame fun _ => .same _

/-- Two runs have left the same but for the secret in the file of the keys. -/
structure LeaveSameButSecret (l : Locations) (p q : Prompt) (s t : Session) : Prop where
  /-- They have asked the same questions. -/
  asked : s.asked = t.asked
  /-- They have logged the same lines. -/
  log : s.log = t.log
  /-- The config file is the same. -/
  settings : s.disk.content l.config = t.disk.content l.config ∧
    s.disk.node (s.disk.place l.config) = t.disk.node (s.disk.place l.config)
  /-- So is everything else, but for the file of the keys. -/
  elsewhere : s.disk.directory = t.disk.directory ∧
    ∀ place, place ≠ s.disk.place l.credentials → s.disk.node place = t.disk.node place
  /-- This file is the same, too, or the two secrets stand in the same place of the same text. -/
  keys : s.disk.node (s.disk.place l.credentials) = t.disk.node (s.disk.place l.credentials) ∨
    ∃ (u w x y : Text) (mode : Nat), p.Replied s.asked Credentials.secretQuestion x ∧
      q.Replied t.asked Credentials.secretQuestion y ∧
      s.disk.node (s.disk.place l.credentials) = some (.file (.text (u ++ x ++ w)) mode) ∧
      t.disk.node (s.disk.place l.credentials) = some (.file (.text (u ++ y ++ w)) mode)

/-- States that are the same but for the secret have left that. -/
theorem SameButSecret.leave {s t : Session} (related : SameButSecret l p q s t) :
    LeaveSameButSecret l p q s t := by
  cases related with
  | same together =>
    obtain ⟨rfl, -⟩ := together
    exact ⟨rfl, rfl, ⟨rfl, rfl⟩, ⟨rfl, fun _ _ => rfl⟩, .inl rfl⟩
  | @secret x y u w mode told stands =>
    have outside : s.disk.place l.credentials ∉ Path.way s.disk.directory l.config :=
      told.together.2.first
    have away : s.disk.place l.credentials ≠ s.disk.place l.config := told.together.2.ne
    exact ⟨rfl, rfl, ⟨(Disk.content_put outside _ away).symm, (if_neg away.symm).symm⟩,
      ⟨rfl, fun place other => (if_neg other).symm⟩,
      .inr ⟨u, w, x, y, mode, told.first, told.second, stands, if_pos rfl⟩⟩

/-- The user who makes a profile called as its key and its region are. -/
def keyed (secret : Text) : Prompt where
  answer _ q :=
    match q with
    | .select _ _ => .ok (0 : Nat)
    | .input _ _ => .ok "work"
    | .password _ => .ok secret
    | .confirm _ _ => .ok true

/-- Two such users reply alike but for the secret. -/
theorem alikeButSecret_keyed {x y : Text} (long : Credentials.leastLength ≤ x.length)
    (long' : Credentials.leastLength ≤ y.length) : (keyed x).AlikeButSecret (keyed y) where
  others asked question open_ := by
    cases question with
    | password title => exact absurd rfl (open_ title)
    | select title options => rfl
    | input title suggestion => rfl
    | confirm title default => rfl
  secrets _ _ := .inr ⟨x, y, rfl, rfl, long, long'⟩

end Selection

end ProfilePicker
