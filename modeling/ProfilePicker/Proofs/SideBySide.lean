import ProfilePicker.Proofs.Effects

/-!
# Two runs side by side

Two flows go alike when, from states that are related, they end alike: with the same fault, or with
results and states that are related again. Each way to put flows together keeps flows alike, so it
is enough to look at the steps in which two runs differ.
-/
namespace ProfilePicker

open Ini (Document)

/-- A relation between the states of two runs that lasts when both log the same line or ask the same
question. -/
structure Session.Lasting (R : Session → Session → Prop) : Prop where
  /-- Both runs have asked the same. -/
  asked : ∀ {s t}, R s t → s.asked = t.asked
  /-- It lasts when both log a line. -/
  log : ∀ {s t} line, R s t → R { s with log := s.log ++ [line] } { t with log := t.log ++ [line] }
  /-- It lasts when both ask a question. -/
  ask : ∀ {s t} q, R s t →
    R { s with asked := s.asked ++ [q] } { t with asked := t.asked ++ [q] }

namespace Flow

variable {α β α' β' : Type}

/-- Two ends that are alike: both fail with the same fault, in states that are related in one way,
or both succeed, with results and states that are related in another. -/
inductive Ends (E : Session → Session → Prop) (S : α → β → Session → Session → Prop) :
    Except Fault α × Session → Except Fault β × Session → Prop
  /-- Both fail. -/
  | error (fault : Fault) {s t : Session} (related : E s t) :
    Ends E S (.error fault, s) (.error fault, t)
  /-- Both succeed. -/
  | ok {a : α} {b : β} {s t : Session} (related : S a b s t) : Ends E S (.ok a, s) (.ok b, t)

/-- Both results are the same, and the states are related. -/
def Along (R : Session → Session → Prop) (a b : α) (s t : Session) : Prop := a = b ∧ R s t

/-- Two flows go alike for two users: from related states they end alike. -/
def Alike (p q : Prompt) (E R : Session → Session → Prop) (S : α → β → Session → Session → Prop)
    (f : Flow α) (g : Flow β) : Prop :=
  ∀ s t, R s t → Ends E S (f.outcome p s) (g.outcome q t)

variable {p q : Prompt} {E R R' : Session → Session → Prop} {S : α → β → Session → Session → Prop}
  {T : α' → β' → Session → Session → Prop}

/-- To return related results is alike. -/
theorem Alike.pure {a : α} {b : β} (related : ∀ s t, R s t → S a b s t) :
    Alike p q E R S (Pure.pure a : Flow α) (Pure.pure b : Flow β) :=
  fun s t same => .ok (related s t same)

/-- To return the same is alike. -/
theorem Alike.same (a : α) : Alike p q E R (Along R) (Pure.pure a : Flow α) (Pure.pure a) :=
  .pure fun _ _ related => ⟨rfl, related⟩

/-- To fail in the same way is alike. -/
theorem Alike.throw (fault : Fault) (related : ∀ s t, R s t → E s t) :
    Alike p q E R S (throw fault : Flow α) (throw fault : Flow β) :=
  fun s t same => .error fault (related s t same)

/-- To log the same is alike. -/
theorem Alike.log (lasting : Session.Lasting R) (level : Level) (text : Text) :
    Alike p q E R (Along R) (Flow.log level text) (Flow.log level text) :=
  fun _ _ related => .ok ⟨rfl, lasting.log _ related⟩

/-- To ask the same is alike where both users reply the same. -/
theorem Alike.ask (lasting : Session.Lasting R) (wider : ∀ s t, R s t → E s t) {question : Question}
    (replies : ∀ asked, p.answer asked question = q.answer asked question) :
    Alike p q E R (Along R) (Flow.ask question) (Flow.ask question) := by
  intro s t related
  rw [outcome_ask, outcome_ask, replies, lasting.asked related]
  have after := lasting.ask question related
  rw [lasting.asked related] at after
  cases q.answer t.asked question with
  | error fault => exact .error fault (wider _ _ after)
  | ok reply => exact .ok ⟨rfl, after⟩

/-- Two flows after two others go alike where they do from all ends of these. -/
theorem Alike.bind {f : Flow α} {g : Flow β} {f' : α → Flow α'} {g' : β → Flow β'}
    (first : Alike p q E R S f g) (second : ∀ a b, Alike p q E (S a b) T (f' a) (g' b)) :
    Alike p q E R T (f >>= f') (g >>= g') := by
  intro s t related
  have ends := first s t related
  rw [outcome_bind, outcome_bind]
  cases left : f.outcome p s with
  | mk reply s' =>
    cases right : g.outcome q t with
    | mk reply' t' =>
      rw [left, right] at ends
      cases ends with
      | error fault after => exact .error fault after
      | ok after => exact second _ _ _ _ after

/-- So do two flows after two others with the same result. -/
theorem Alike.bindSame {f g : Flow α} {f' : α → Flow α'} {g' : α → Flow β'}
    (first : Alike p q E R (Along R') f g) (second : ∀ a, Alike p q E R' T (f' a) (g' a)) :
    Alike p q E R T (f >>= f') (g >>= g') := by
  refine first.bind fun a b s t related => ?_
  obtain ⟨rfl, related⟩ := related
  exact second a s t related

/-- Flows that only log go alike from the same state. -/
theorem OnlyLogs.alike {f : Flow α} (only : f.OnlyLogs) (same : ∀ s t, R s t → s = t)
    (relogs : ∀ s log, R s s → R { s with log := log } { s with log := log })
    (wider : ∀ s t, R s t → E s t) : Alike p q E R (Along R) f f := by
  intro s t related
  obtain rfl := same s t related
  obtain ⟨result, log, ran⟩ := only s .willing
  rw [ran p, ran q]
  have after := relogs s log related
  cases result with
  | error fault => exact .error fault (wider _ _ after)
  | ok a => exact .ok ⟨rfl, after⟩

end Flow

namespace Store

open ProfilePicker.Flow (Alike Along)

variable {p q : Prompt} {E R S : Session → Session → Prop} {store : Store}

/-- Loading, with the fault returned, goes alike where the same is found. -/
theorem attempt_load_alike (lasting : Session.Lasting R)
    (finds : ∀ s t, R s t → store.find s.disk = store.find t.disk) :
    Alike p q E R (Along R) store.load.attempt store.load.attempt := by
  intro s t related
  rw [Flow.outcome_attempt, Flow.outcome_attempt]
  simp only [load, Flow.outcome_bind, Flow.outcome_permit, Flow.outcome_get, finds s t related]
  cases store.find t.disk with
  | error fault => exact .ok ⟨rfl, related⟩
  | ok d => exact .ok ⟨rfl, lasting.log _ related⟩

/-- So does loading with an empty document for a missing file. -/
theorem loadOrEmpty_alike (lasting : Session.Lasting R) (wider : ∀ s t, R s t → E s t)
    (finds : ∀ s t, R s t → store.find s.disk = store.find t.disk) :
    Alike p q E R (Along R) store.loadOrEmpty store.loadOrEmpty := by
  refine (attempt_load_alike lasting finds).bindSame fun loaded => ?_
  rcases loaded with (_ | _ | _ | _ | path | _ | _ | _ | _ | _) | d
  case error.missingFile => exact (Alike.log lasting _ _).bindSame fun _ => .same _
  case ok => exact .same d
  all_goals exact .throw _ wider

/-- Writing goes alike where the writes do. -/
theorem write_alike {u v : Text} (writes : ∀ s t, R s t →
    (∃ fault, (store.writing u s.disk).1 = .error fault ∧
      (store.writing v t.disk).1 = .error fault ∧
      E { s with disk := (store.writing u s.disk).2 }
        { t with disk := (store.writing v t.disk).2 }) ∨
    (store.writing u s.disk).1 = .ok () ∧ (store.writing v t.disk).1 = .ok () ∧
      S { s with disk := (store.writing u s.disk).2 }
        { t with disk := (store.writing v t.disk).2 }) :
    Alike p q E R (Along S) (store.write u) (store.write v) := by
  intro s t related
  rw [outcome_write, outcome_write]
  rcases writes s t related with ⟨fault, failed, failed', after⟩ | ⟨done, done', after⟩
  · rw [failed, failed']
    exact .error fault after
  · rw [done, done']
    exact .ok ⟨rfl, after⟩

/-- Saving documents with the same number of sections goes alike where the writes do. -/
theorem save_alike {d d' : Document} (lasting : Session.Lasting S)
    (counts : d.sections.length = d'.sections.length)
    (writes : Alike p q E R (Along S) (store.write d.text) (store.write d'.text)) :
    Alike p q E R (Along S) (store.save d) (store.save d') := by
  refine writes.bindSame fun _ => ?_
  rw [sectionCount, sectionCount, counts]
  exact .log lasting _ _

end Store

/-! ## The steps of a selection -/

section Selecting

open ProfilePicker.Flow (Alike Along)

variable {p q : Prompt} {E R R' : Session → Session → Prop} (lasting : Session.Lasting R)
  (wider : ∀ s t, R s t → E s t)
  (asks : ∀ question : Question, (∀ title, question ≠ .password title) →
    Alike p q E R (Along R) (Flow.ask question) (Flow.ask question))

include lasting wider asks in
/-- A profile is made alike where its keys are. -/
theorem Selection.create_alike_of {l : Locations} (catalog : Catalog)
    (creates : ∀ profile, Alike p q E R (Along R')
      (Credentials.createProfile l.credentialsStore profile)
      (Credentials.createProfile l.credentialsStore profile)) :
    Alike p q E R (Along R') (create l catalog) (create l catalog) := by
  refine (asks _ (by simp)).bindSame fun typed => ?_
  dsimp only
  split
  · exact fun s t related => .error emptyName (wider s t related)
  · exact (Alike.log lasting _ _).bindSame fun _ => (creates _).bindSame fun _ => .same _

include wider asks in
/-- A profile is settled on alike where a new one is made alike. -/
theorem Selection.settleProfile_alike_of {l : Locations} {catalog : Catalog} (wish : Option Text)
    (narrower : ∀ s t, R s t → R' s t)
    (creates : Alike p q E R (Along R') (create l catalog) (create l catalog)) :
    Alike p q E R (Along R') (settleProfile l catalog wish) (settleProfile l catalog wish) := by
  have returns : ∀ name : Text,
      Alike p q E R (Along R') (Pure.pure name : Flow Text) (Pure.pure name) :=
    fun name => .pure fun s t related => ⟨rfl, narrower s t related⟩
  rw [settleProfile]
  split
  · split
    · exact returns _
    · exact .throw _ wider
  · refine (asks _ (by simp)).bindSame fun index => ?_
    split
    · exact creates
    · split
      · exact returns _
      · exact .throw _ wider

include lasting wider asks in
/-- A region is resolved alike where the same document is taken and texts are written alike. -/
theorem Region.resolve_alike_of {store : Store} (suggested profile : Text)
    (lasting' : Session.Lasting R')
    (loads : Alike p q E R (Along R) store.loadOrEmpty store.loadOrEmpty)
    (writes : ∀ d region, Alike p q E R (Along R')
      (store.write (storeIn region profile d).text)
      (store.write (storeIn region profile d).text)) :
    Alike p q E R (Along R') (resolve store suggested profile)
      (resolve store suggested profile) := by
  rw [resolve_eq]
  refine loads.bindSame fun d => (asks _ (by simp [question])).bindSame fun typed => ?_
  dsimp only
  split
  · exact fun s t related => .error emptyRegion (wider s t related)
  · have stores : Alike p q E R (Along R') (store.save (storeIn (Text.trim typed) profile d))
        (store.save (storeIn (Text.trim typed) profile d)) :=
      Store.save_alike lasting' rfl (writes d _)
    have rest := stores.bindSame fun _ => (Alike.log (p := p) (q := q) (E := E) lasting' .info
      ("region for profile " ++ profile.quoted ++ " set to " ++ Text.trim typed)).bindSame
        fun _ => .same (Text.trim typed)
    rw [storing]
    cases d.has (Naming.prefixed.sectionFor profile) with
    | true => exact rest
    | false => exact (Alike.log lasting _ _).bindSame fun _ => rest

end Selecting

end ProfilePicker
