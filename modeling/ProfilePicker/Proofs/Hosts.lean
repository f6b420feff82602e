import ProfilePicker.Proofs.Effects

/-!
# What a host refuses and leaves

Whatever a host refuses, an operation does what it does on a host that refuses nothing, or it fails
with the reason of the host. Then it has made directories at most, or it has been broken off when
it had already changed its file: this can only happen where it would have succeeded, and the file
holds a beginning of the text that was to be written.
-/
namespace ProfilePicker

open Ini (Document)

/-- The fault of an operation that a host refuses. -/
def Host.fault (reason : Text) : Fault := .disk (.other reason)

/-! ## Beginnings of texts -/

namespace Content

/-- No text is without bytes but the empty one. -/
theorem encode_eq_nil_iff {s : Text} : Utf8.encode s = [] ↔ s = [] := by
  rw [Utf8.encode, List.flatMap_eq_nil_iff]
  constructor
  · intro none
    cases s with
    | nil => rfl
    | cons c s =>
      have length := congrArg List.length (none c List.mem_cons_self)
      rw [String.length_utf8EncodeChar] at length
      exact absurd length (Nat.ne_of_gt c.utf8Size_pos)
  · rintro rfl
    simp

/-- A text that is broken off before its first byte is empty. -/
theorem cut_zero (s : Text) : cut s 0 = .text [] := by
  rw [cut]
  split
  · rw [List.take_zero, ofBytes, Utf8.decode?, Utf8.pieces]
    rfl
  · rename_i short
    have nothing : Utf8.encode s = [] := List.eq_nil_of_length_eq_zero (by omega)
    rw [encode_eq_nil_iff.1 nothing]

/-- The empty text cannot be broken off. -/
theorem cut_nil (n : Nat) : cut [] n = .text [] := if_neg (Nat.not_lt_zero n)

/-- A text that is broken off behind its last byte is whole. -/
theorem cut_all (s : Text) : cut s (Utf8.encode s).length = .text s := if_neg (Nat.lt_irrefl _)

end Content

/-! ## Work on the disk -/

namespace Disk

variable {d d' : Disk} {path : Text}

/-- Of some wanted directories, others may be wanted besides. -/
theorem Opens.mono {ps qs : List Place} {p : Place} (opens : Opens ps d d' p) (part : ps ⊆ qs) :
    Opens qs d d' p :=
  opens.imp_right fun ⟨member, made⟩ => ⟨part member, made⟩

/-- A file on a way where no directory is missing any more keeps its content. -/
theorem Leaves.makesWay {c : Content} {d'' : Disk} (leaves : d.Leaves path c d')
    (makes : d'.MakesWay path d'') : d.Leaves path c d'' := by
  have place : d'.place path = d.place path := congrArg (Path.place · path) leaves.directory
  refine ⟨makes.directory.trans leaves.directory, makes.spares.content c leaves.content,
    fun p away => ?_⟩
  have later := makes.node p
  rw [leaves.directory] at later
  exact (leaves.node p away).trans later

end Disk

namespace Host

variable (host : Host) (d : Disk) (path : Text)

/-- A way is made as far as the disk allows, or the host stops before. -/
theorem makeWay_ends : host.makeWay d path = d.makeWay path ∨
    ∃ made reason, host.makeWay d path = (made, some (.other reason)) ∧ d.MakesWay path made := by
  rw [makeWay]
  split
  · exact .inl rfl
  · rename_i places reason stops
    have opens := Disk.opens_makeDirectories d ((Path.way d.directory path).take places)
    have directory := Disk.directory_makeDirectories d ((Path.way d.directory path).take places)
    split
    · rename_i made usable done
      rw [done] at opens directory
      exact .inr ⟨made, reason, rfl, directory, fun p => (opens p).mono (List.take_subset _ _)⟩
    · exact .inl rfl

/-- A text is written as far as the disk allows, or the host has not begun, or it breaks off. -/
theorem write_ends (s : Text) : host.write d path s = willing.write d path s ∨
    (∃ reason, host.write d path s = (d, some (.other reason))) ∨
    ∃ n reason left, d.write path (.cut s n) = .ok left ∧
      host.write d path s = (left, some (.other reason)) := by
  rw [write]
  split
  · exact .inl rfl
  · exact .inr (.inl ⟨_, rfl⟩)
  · rename_i n reason stops
    rcases d.write_eq path with ⟨r, refused⟩ | ⟨mode, done⟩
    · exact .inl (by rw [refused, willing_write_of_error (refused _)])
    · exact .inr (.inr ⟨n, reason, _, done _, by rw [done]⟩)

end Host

/-! ## Stores on a host -/

namespace Store

variable (store : Store)

/-- A file is kept from others as the disk allows, or the host does not do so. -/
theorem restrict_ends (host : Host) (d : Disk) : store.restrict host d = store.restrict .willing d ∨
    ∃ reason, store.restrict host d = (d, some (.other reason)) := by
  rw [restrict, restrict]
  split
  · rw [Host.setMode]
    split
    · exact .inl rfl
    · exact .inr ⟨_, rfl⟩
  · exact .inl rfl

/-- A document is found as it is there, or the host does not let it be read. -/
theorem finding_ends (host : Host) (d : Disk) : store.finding d host = store.find d ∨
    ∃ reason, store.finding d host = .error (Host.fault reason) := by
  rw [finding, Host.permit]
  cases host.unread? d store.path with
  | none => exact .inl rfl
  | some reason => exact .inr ⟨reason, rfl⟩

/-- A file is filled as the disk allows, or the host has not begun, or it breaks off. -/
theorem filling_ends (host : Host) (t : Text) (d : Disk) :
    store.filling t d host = store.filling t d ∨
    (∃ reason, store.filling t d host = (.error (Host.fault reason), d)) ∨
    (store.filling t d).1 = .ok () ∧ ∃ n reason left, d.write store.path (.cut t n) = .ok left ∧
      store.filling t d host = (.error (Host.fault reason), left) := by
  rcases host.write_ends d store.path t with
    same | ⟨reason, refused⟩ | ⟨n, reason, left, part, refused⟩
  · cases wrote : d.write store.path (.text t) with
    | error cause =>
      left
      rw [filling, filling, same, Host.willing_write_of_error wrote]
    | ok written =>
      rcases store.restrict_ends host written with same' | ⟨reason, refused⟩
      · left
        rw [filling, filling, same, Host.willing_write_of_ok wrote]
        dsimp only
        rw [same']
      · refine .inr (.inr ⟨by rw [filling_of_written wrote], (Utf8.encode t).length, reason,
          written, ?_, ?_⟩)
        · rw [Content.cut_all]
          exact wrote
        · rw [filling, same, Host.willing_write_of_ok wrote]
          dsimp only
          rw [refused]
          rfl
  · exact .inr (.inl ⟨reason, by rw [filling, refused]; rfl⟩)
  · refine .inr (.inr ⟨?_, n, reason, left, part, by rw [filling, refused]; rfl⟩)
    rcases d.write_eq store.path with ⟨r, failed⟩ | ⟨mode, done⟩
    · cases (failed _).symm.trans part
    · rw [filling_of_written (done _)]

/-- **A write is done as the disk allows, or the host refuses it.** Then it has made directories at
most, unless the host broke it off: then it would have succeeded, and a beginning of the text is in
the file. -/
theorem writing_ends (host : Host) (t : Text) (d : Disk) :
    store.writing t d host = store.writing t d ∨
    ∃ reason, (store.writing t d host).1 = .error (Host.fault reason) ∧
      (d.MakesWay store.path (store.writing t d host).2 ∨
        (store.writing t d).1 = .ok () ∧
          ∃ n, d.Leaves store.path (.cut t n) (store.writing t d host).2) := by
  rcases host.makeWay_ends d store.path with same | ⟨made, reason, stops, makes⟩
  · have way := d.makesWay_makeWay store.path
    obtain ⟨⟨made, obstacle⟩, clear⟩ : ∃ made, d.makeWay store.path = made := ⟨_, rfl⟩
    rw [clear] at same way
    cases obstacle with
    | some cause =>
      left
      rw [writing_of_obstacle clear, writing, same]
    | none =>
      have fills : store.writing t d host = store.filling t made host := by rw [writing, same]
      rw [fills, writing_of_way clear]
      rcases store.filling_ends host t made with
        same | ⟨reason, refused⟩ | ⟨done, n, reason, left, part, refused⟩
      · exact .inl same
      · rw [refused]
        exact .inr ⟨reason, rfl, .inl way⟩
      · rw [refused]
        exact .inr ⟨reason, rfl, .inr ⟨done, n, way.leaves part⟩⟩
  · right
    refine ⟨reason, ?_⟩
    rw [writing, stops]
    exact ⟨rfl, .inl makes⟩

end Store

/-! ## Keys and regions on a host -/

namespace Credentials

variable {store : Store} {profile : Text} {c : Credentials} {d : Disk}

/-- A pair is looked for as the disk allows, or the host does not let the file be read. -/
theorem retrieving_ends (host : Host) (store : Store) (profile : Text) (d : Disk) :
    retrieving store profile d host = retrieving store profile d ∨
      ∃ reason, retrieving store profile d host = .error (Host.fault reason) := by
  rcases store.finding_ends host d with same | ⟨reason, refused⟩
  · exact .inl (by rw [retrieving, retrieving, same, Store.finding_willing])
  · exact .inr ⟨reason, by rw [retrieving, refused]⟩

/-- A pair is added to a document as the disk allows, or the host refuses it. -/
theorem adding_ends (host : Host) {keys : Document} (found : store.find d = .ok keys)
    (profile : Text) (c : Credentials) :
    adding store profile c d host = adding store profile c d ∨
    ∃ reason, (adding store profile c d host).1 = .error (Host.fault reason) ∧
      (d.MakesWay store.path (adding store profile c d host).2 ∨
        ∃ n, d.Leaves store.path (.cut (c.storeIn profile keys).text n)
          (adding store profile c d host).2) := by
  rcases store.finding_ends host d with same | ⟨reason, refused⟩
  · rw [adding_of_find found, adding, same, found]
    rcases store.writing_ends host (c.storeIn profile keys).text d with
      same | ⟨reason, refused, makes | ⟨-, part⟩⟩
    · exact .inl same
    · exact .inr ⟨reason, refused, .inl makes⟩
    · exact .inr ⟨reason, refused, .inr part⟩
  · rw [adding, refused]
    exact .inr ⟨reason, rfl, .inl (.refl d _)⟩

/-- A pair is added to a file that was made for it. -/
theorem adding_of_made (made : (store.writing [] d).1 = .ok ()) (profile : Text)
    (c : Credentials) : (adding store profile c (store.writing [] d).2).1 = .ok () := by
  have read := (Store.puts_of_writing made).read
  rw [adding_of_read_nil read]
  exact Store.writing_ok read _

/-- A file is made for a pair as the disk allows, or the host refuses it, or it refuses something
when the file is there. -/
theorem making_ends (host : Host) (finds : d.Finds store.path none) (profile : Text)
    (c : Credentials) :
    making store profile c d host = making store profile c d ∨
    ∃ reason, (making store profile c d host).1 = .error (Host.fault reason) ∧
      (d.MakesWay store.path (making store profile c d host).2 ∨
        (making store profile c d).1 = .ok () ∧ ∃ content keys n, d.Finds store.path content ∧
          documentOf content = .ok keys ∧
          d.Leaves store.path (.cut (c.storeIn profile keys).text n)
            (making store profile c d host).2) := by
  cases made : (store.writing [] d).1 with
  | error fault =>
    rcases store.writing_ends host [] d with same | ⟨reason, refused, makes | ⟨done, -⟩⟩
    · have made' : (store.writing [] d host).1 = .error fault := same ▸ made
      exact .inl (by rw [making_of_error made, making_of_error made', same])
    · rw [making_of_error refused]
      exact .inr ⟨reason, rfl, .inl makes⟩
    · cases made.symm.trans done
  | ok done =>
    have first := Store.puts_of_writing made
    have saved := adding_of_made made profile c
    have found := Store.find_of_finds first.read parse_nil
    rw [making_of_ok made]
    rcases store.writing_ends host [] d with same | ⟨reason, refused, makes | ⟨-, n, part⟩⟩
    · have made' : (store.writing [] d host).1 = .ok () := same ▸ made
      rw [making_of_ok made', same]
      -- The file is there, so that a refusal now leaves it empty at least.
      rcases adding_ends host found profile c with same | ⟨reason, refused, makes | ⟨n, part⟩⟩
      · exact .inl same
      · refine .inr ⟨reason, refused, .inr ⟨saved, none, .empty, 0, finds, rfl, ?_⟩⟩
        rw [Content.cut_zero]
        exact first.makesWay makes
      · exact .inr ⟨reason, refused, .inr ⟨saved, none, .empty, n, finds, rfl, first.trans part⟩⟩
    · rw [making_of_error refused]
      exact .inr ⟨reason, rfl, .inl makes⟩
    · rw [making_of_error refused]
      refine .inr ⟨reason, rfl, .inr ⟨saved, none, .empty, 0, finds, rfl, ?_⟩⟩
      rw [Content.cut_nil] at part
      rw [Content.cut_zero]
      exact part

/-- **A pair is stored as the disk allows, or the host refuses it.** Then directories have been made
at most, unless the host broke off one of the writes or refused something between them: then it
would have been stored, and a beginning of the new text is in the file. -/
theorem saving_ends (host : Host) (store : Store) (profile : Text) (c : Credentials) (d : Disk) :
    saving store profile c d host = saving store profile c d ∨
    ∃ reason, (saving store profile c d host).1 = .error (Host.fault reason) ∧
      (d.MakesWay store.path (saving store profile c d host).2 ∨
        (saving store profile c d).1 = .ok () ∧ ∃ content keys n, d.Finds store.path content ∧
          documentOf content = .ok keys ∧
          d.Leaves store.path (.cut (c.storeIn profile keys).text n)
            (saving store profile c d host).2) := by
  rcases retrieving_ends host store profile d with same | ⟨reason, refused⟩
  · rw [saving, saving, same]
    split
    · exact .inl rfl
    · rename_i path missed
      have finds := Store.finds_of_find_missing (find_of_retrieving_missing missed)
      exact making_ends host finds profile c
    · rename_i subject unknown
      obtain ⟨keys, found, unstored⟩ := find_of_retrieving_notFound unknown
      obtain ⟨t, holds, read⟩ := Store.parse_of_find found
      rcases adding_ends host found profile c with same | ⟨reason, refused, makes | ⟨n, part⟩⟩
      · exact .inl same
      · exact .inr ⟨reason, refused, .inl makes⟩
      · refine .inr ⟨reason, refused, .inr ⟨?_, some t, keys, n, holds.finds, read, part⟩⟩
        rw [adding_of_find found]
        exact Store.writing_ok holds.read _
    · exact .inl rfl
  · rw [saving, refused]
    exact .inr ⟨reason, rfl, .inl (.refl d _)⟩

end Credentials

namespace Region

variable {store : Store} {prompt : Prompt} {s s' : Session} {suggested profile : Text}

/-- A region that the user types is stored where its document can be written. -/
theorem resolve_of_writing {d : Document} {typed : Text} (taken : store.taken s.disk = .ok d)
    (answered : prompt.answer s.asked (question d suggested profile) = .ok typed)
    (visible : typed.trim ≠ [])
    (writes : (store.writing (storeIn typed.trim profile d).text s.disk).1 = .ok ()) :
    ((resolve store suggested profile).outcome prompt s).1 = .ok typed.trim := by
  obtain ⟨log, loaded⟩ := store.outcome_loadOrEmpty s .willing
  have asks : (Flow.ask (question d suggested profile)).outcome prompt { s with log := log } =
      (.ok typed, { s with asked := s.asked ++ [question d suggested profile], log := log }) := by
    rw [Flow.outcome_ask, answered]
  have filled : (Text.trim typed).isEmpty = false := by simpa using visible
  obtain ⟨log', stored⟩ := outcome_storing store profile d typed.trim prompt
    { s with asked := s.asked ++ [question d suggested profile], log := log } .willing
  rw [resolve_eq, Flow.outcome_bind, loaded, taken]
  dsimp only
  rw [Flow.outcome_bind_of_ok prompt _ asks]
  simp only [filled]
  refine (congrArg Prod.fst stored).trans ?_
  rw [writes]
  rfl

/-- **Resolving a region fails and makes directories at most, or it puts the region into what a
reader found, or the host breaks it off.** In the last case it would have succeeded, and a beginning
of the new text is in the file. -/
theorem resolve_ends {host : Host} {result : Except Fault Text}
    (ran : (resolve store suggested profile).outcome prompt s host = (result, s')) :
    (∃ fault, result = .error fault ∧ s.disk.MakesWay store.path s'.disk) ∨
    (∃ region content d, result = .ok region ∧ region ≠ [] ∧ Text.Trimmed region ∧
      s.disk.Finds store.path content ∧ documentOf content = .ok d ∧
      s.disk.Puts store.path (storeIn region profile d).text s'.disk) ∨
    ∃ reason region content d n, result = .error (Host.fault reason) ∧
      ((resolve store suggested profile).outcome prompt s).1 = .ok region ∧
      s.disk.Finds store.path content ∧ documentOf content = .ok d ∧
      s.disk.Leaves store.path (.cut (storeIn region profile d).text n) s'.disk := by
  rw [resolve_eq] at ran
  rcases Flow.cases_of_bind ran with ⟨fault, failed, same⟩ | ⟨d, s₁, loaded, ran⟩
  · obtain ⟨disk, -⟩ := store.loadOrEmpty_onlyLogs.of_outcome failed
    exact .inl ⟨fault, same, disk ▸ .refl _ _⟩
  obtain ⟨content, finds, read⟩ := Store.finds_of_loadOrEmpty loaded
  obtain ⟨disk, asked⟩ := store.loadOrEmpty_onlyLogs.of_outcome loaded
  rcases Flow.cases_of_bind ran with ⟨fault, failed, same⟩ | ⟨typed, s₂, answered, ran⟩
  · obtain ⟨-, rfl⟩ := Flow.error_of_ask failed
    exact .inl ⟨fault, same, disk ▸ .refl _ _⟩
  obtain ⟨replied, rfl⟩ := Flow.ok_of_ask answered
  rw [asked] at replied
  by_cases blank : Text.trim typed = []
  · have refused : (Text.trim typed).isEmpty = true := by simpa using blank
    simp only [refused, if_true] at ran
    cases ran
    exact .inl ⟨emptyRegion, rfl, disk ▸ .refl _ _⟩
  have filled : (Text.trim typed).isEmpty = false := by simpa using blank
  simp only [filled] at ran
  obtain ⟨log, stored⟩ := outcome_storing store profile d (Text.trim typed) prompt
    { s₁ with asked := s₁.asked ++ [question d suggested profile] } host
  have same := stored.symm.trans ran
  dsimp only at same
  rw [disk] at same
  rcases store.writing_ends host (storeIn (Text.trim typed) profile d).text s.disk with
    whole | ⟨reason, refused, makes | ⟨done, n, part⟩⟩
  · rw [whole] at same
    rcases store.writing_cases (storeIn (Text.trim typed) profile d).text s.disk with
      ⟨fault, failed, makes⟩ | ⟨done, puts⟩
    · rw [failed] at same
      cases same
      exact .inl ⟨fault, rfl, makes⟩
    · rw [done] at same
      cases same
      exact .inr (.inl ⟨Text.trim typed, content, d, rfl, blank, Text.trimmed_trim typed, finds,
        read, puts⟩)
  · rw [refused] at same
    cases same
    exact .inl ⟨Host.fault reason, rfl, makes⟩
  · rw [refused] at same
    cases same
    have taken := Store.taken_of_finds finds read
    exact .inr (.inr ⟨reason, Text.trim typed, content, d, n, rfl,
      resolve_of_writing taken replied blank done, finds, read, part⟩)

/-- On a host that refuses nothing, it is one of the first two. -/
theorem resolve_cases {result : Except Fault Text}
    (ran : (resolve store suggested profile).outcome prompt s = (result, s')) :
    (∃ fault, result = .error fault ∧ s.disk.MakesWay store.path s'.disk) ∨
      ∃ region content d, result = .ok region ∧ region ≠ [] ∧ Text.Trimmed region ∧
        s.disk.Finds store.path content ∧ documentOf content = .ok d ∧
        s.disk.Puts store.path (storeIn region profile d).text s'.disk := by
  rcases resolve_ends ran with failed | done | ⟨reason, region, content, d, n, failed, done, -⟩
  · exact .inl failed
  · exact .inr done
  · rw [ran, failed] at done
    cases done

end Region

end ProfilePicker
