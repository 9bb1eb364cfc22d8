import CloudClient.Service
import CloudClient.Proofs.Page.Trace
import CloudClient.Proofs.Queue.Wire
import Mathlib.Data.List.Nodup
/-! What a listing sends. Whatever the provider answers, every request of a walk asks for the same path with the
same headers and with all that the caller has asked for; only the marker changes, and it is the one that the
reply before has named. -/
namespace CloudClient

open Http

namespace Service

abbrev Exchange := Request × Outcome Response

def equipped (headers : List (String × String)) : Service :=
  headers.foldl (fun s header => s.withHeader header.1 header.2) new

def walked {σ α : Type} (service : Service) (path : String) (codec : Page.Codec) (item : Json.Decoder α)
    (execute : Executor σ) (s : σ) (options : Page.ListOptions) (n : Nat) :
    List (Option (Outcome (Page α))) × Page.Cursor Page.ListOptions × σ × List Exchange :=
  Page.Cursor.called ((service.listing path codec item).fetcher (logged execute)) (.new options) (s, []) n

def exchanges {σ α : Type} (service : Service) (path : String) (codec : Page.Codec) (item : Json.Decoder α)
    (execute : Executor σ) (s : σ) (options : Page.ListOptions) (n : Nat) : List Exchange :=
  (walked service path codec item execute s options n).2.2.2

def pageRequest (service : Service) (path : String) (options : Page.ListOptions) : Request :=
  ⟨.get, path, options.query, service.headers, none, none, none⟩

def Names (codec : Page.Codec) (reply : Outcome Response) (m : Marker) : Prop :=
  m.text ≠ "" ∧ ∃ response page, reply = .ok response ∧ codec.decode response.body = .ok page ∧ page.marker = some m

structure Carried (options : Page.ListOptions) (query : QueryPairs) : Prop where
  limit : ∀ limit, options.limit = some limit → ("limit", toString limit) ∈ query
  sortKey : ∀ key, options.sortKey = some key → ("sort_key", key.text) ∈ query
  sortDirection : ∀ direction, options.sortDirection = some direction → ("sort_dir", direction.text) ∈ query
  filters : options.filters <:+ query

structure Kept (service : Service) (path : String) (codec : Page.Codec) (options : Page.ListOptions)
    (log : List Exchange) : Prop where
  begun : ∀ e, log.head? = some e → e.1 = service.pageRequest path options
  followed : log.IsChain fun e f =>
    ∃ m, Names codec e.2 m ∧ f.1 = service.pageRequest path { options with marker := some m }
  carried : ∀ e ∈ log, Carried options e.1.query

end Service

namespace Http.Headers

theorem setNames (name value : String) (headers : Headers) : (headers.set name value).map (·.1) =
    if name ∈ headers.map (·.1) then headers.map (·.1) else headers.map (·.1) ++ [name] := by
  induction headers with
  | nil => rfl
  | cons header rest ih =>
    obtain ⟨n, v⟩ := header
    by_cases same : n = name
    · simp [set, same]
    · simp only [set, if_neg same, List.map_cons, ih, List.mem_cons, Ne.symm same, false_or]
      split <;> rfl

theorem setDistinct {headers : Headers} (distinct : (headers.map (·.1)).Nodup) (name value : String) :
    ((headers.set name value).map (·.1)).Nodup := by
  rw [setNames]
  split
  · exact distinct
  · rename_i other
    exact List.nodup_append.mpr ⟨distinct, List.nodup_singleton _, fun n old m new same =>
      other (List.mem_singleton.mp new ▸ same ▸ old)⟩

theorem setNew {headers : Headers} {name : String} (other : name ∉ headers.map (·.1)) (value : String) :
    headers.set name value = headers ++ [(name, value)] := by
  induction headers with
  | nil => rfl
  | cons header rest ih =>
    obtain ⟨n, v⟩ := header
    obtain ⟨first, later⟩ := not_or.mp (mt List.mem_cons.mpr other)
    rw [set, if_neg (Ne.symm first), ih later]
    rfl

theorem setAllNew {headers more : Headers} (distinct : ((headers ++ more).map (·.1)).Nodup) :
    headers.setAll more = headers ++ more := by
  induction more generalizing headers with
  | nil => exact (List.append_nil _).symm
  | cons header more ih =>
    have other : header.1 ∉ headers.map (·.1) := by
      rw [List.map_append, List.map_cons] at distinct
      exact fun old => (List.nodup_append.mp distinct).2.2 _ old _ List.mem_cons_self rfl
    have again : headers ++ header :: more = (headers ++ [header]) ++ more := by
      rw [List.append_assoc, List.singleton_append]
    rw [again] at distinct ⊢
    rw [← ih distinct, ← setNew other]
    rfl

end Http.Headers

theorem Page.tryMapMarker {α β : Type} {f : α → Outcome β} {p : Page α} {q : Page β} (mapped : p.tryMap f = .ok q) :
    q.marker = p.marker := by
  unfold tryMap at mapped
  cases converted : convert f p.items with
  | error e =>
    rw [converted] at mapped
    cases mapped
  | ok items =>
    rw [converted] at mapped
    cases mapped
    rfl

theorem Page.Codec.markerFull {codec : Codec} {body : String} {page : Page Json} {m : Marker}
    (decoded : codec.decode body = .ok page) (marked : page.marker = some m) : m.text ≠ "" := by
  unfold decode at decoded
  split at decoded
  · cases decoded
    cases marked
  · split at decoded
    · cases decoded
    · rename_i value _
      unfold ofValue at decoded
      split at decoded
      · cases decoded
      · cases read : extractText codec.marker value with
        | error e => simp [extractMarker, read, Except.map] at decoded
        | ok text =>
          simp only [extractMarker, read, Except.map, Except.ok.injEq] at decoded
          subst decoded
          obtain ⟨full, own, rfl⟩ := Option.map_eq_some_iff.mp marked
          obtain ⟨found, _, given⟩ := Option.bind_eq_some_iff.mp own
          unfold Text.nonEmpty? at given
          split at given
          · cases given
          · rename_i some
            cases given
            simpa using some

namespace Service

variable {σ α : Type} {codec : Page.Codec} {options sent : Page.ListOptions} {path : String} {item : Json.Decoder α}
  {log : List Exchange} {c d : Page.Cursor Page.ListOptions} {service : Service}

theorem markerNamed {reply : Outcome Response} {page : Page α} {m : Marker}
    (read : (service.listing path codec item).read reply = .ok page) (marked : page.marker = some m) :
    Names codec reply m := by
  cases reply with
  | error e => cases read
  | ok response =>
    simp only [Page.Listing.read, Except.bind, listing] at read
    cases decoded : codec.decode response.body with
    | error e =>
      rw [decoded] at read
      cases read
    | ok found =>
      rw [decoded] at read
      have same : found.marker = some m := (Page.tryMapMarker read).symm.trans marked
      exact ⟨Page.Codec.markerFull decoded same, response, found, rfl, decoded, same⟩

theorem equippedDistinct (headers : List (String × String)) : ((equipped headers).headers.map (·.1)).Nodup := by
  have each (s : Service) (distinct : (s.headers.map (·.1)).Nodup) :
      ((headers.foldl (fun s header => s.withHeader header.1 header.2) s).headers.map (·.1)).Nodup := by
    induction headers generalizing s with
    | nil => exact distinct
    | cons header headers ih => exact ih _ (Headers.setDistinct distinct header.1 header.2)
  exact each new .nil

theorem equippedRequest (headers : List (String × String)) (path : String) (codec : Page.Codec)
    (item : Json.Decoder α) (sent : Page.ListOptions) :
    ((equipped headers).listing path codec item).request sent = (equipped headers).pageRequest path sent := by
  have distinct : ((([] : Headers) ++ (equipped headers).headers).map (·.1)).Nodup := equippedDistinct headers
  have same : Headers.setAll [] (equipped headers).headers = (equipped headers).headers := Headers.setAllNew distinct
  simp only [Page.Listing.request, listing, Request.addHeaders, Request.addQuery, Request.get, Request.new, same]
  rfl

theorem carriedWith (options : Page.ListOptions) (marker : Option Marker) :
    Carried options ({ options with marker } : Page.ListOptions).query where
  limit limit given := by simp [Page.ListOptions.query, Page.ListOptions.pair, given]
  sortKey key given := by simp [Page.ListOptions.query, Page.ListOptions.pair, given]
  sortDirection direction given := by simp [Page.ListOptions.query, Page.ListOptions.pair, given]
  filters := List.suffix_append _ _

inductive Due (codec : Page.Codec) (options : Page.ListOptions) : List Exchange → Page.ListOptions → Prop
  | first : Due codec options [] options
  | next {log e m} (named : Names codec e.2 m) : Due codec options (log ++ [e]) { options with marker := some m }

theorem Due.marked (due : Due codec options log sent) : ∃ marker, sent = { options with marker } := by
  cases due with
  | first => exact ⟨options.marker, rfl⟩
  | @next _ _ m => exact ⟨some m, rfl⟩

theorem Kept.snoc (kept : Kept service path codec options log) (due : Due codec options log sent)
    (reply : Outcome Response) : Kept service path codec options (log ++ [(service.pageRequest path sent, reply)]) := by
  obtain ⟨begun, followed, carried⟩ := kept
  have last : Carried options (service.pageRequest path sent).query := by
    obtain ⟨marker, rfl⟩ := due.marked
    exact carriedWith options marker
  have all : ∀ e ∈ log ++ [(service.pageRequest path sent, reply)], Carried options e.1.query :=
    List.forall_mem_append.mpr ⟨carried, List.forall_mem_singleton.mpr last⟩
  cases due with
  | first => exact ⟨fun e is => by cases is; rfl, .singleton _, all⟩
  | @next log e m named =>
    refine ⟨fun f is => begun f ?_, ?_, all⟩
    · rwa [List.head?_append_of_ne_nil _ (by simp)] at is
    · refine List.isChain_append.mpr ⟨followed, .singleton _, fun f is g new => ?_⟩
      rw [List.getLast?_concat] at is
      cases is
      cases new
      exact ⟨m, named, rfl⟩

structure Walking (service : Service) (path : String) (codec : Page.Codec) (options : Page.ListOptions)
    (c : Page.Cursor Page.ListOptions) (log : List Exchange) : Prop where
  counted : c.pagesFetched = log.length
  kept : Kept service path codec options log
  due : c.phase = .active → Due codec options log c.options

theorem walkingNew (service : Service) (path : String) (codec : Page.Codec) (options : Page.ListOptions) :
    Walking service path codec options (.new options) [] where
  counted := rfl
  kept := ⟨fun _ is => (by cases is), .nil, fun _ member => (by cases member)⟩
  due _ := .first

theorem Walking.advanced (walking : Walking service path codec options c log) (active : c.phase = .active)
    {reply : Outcome Response} {given : Outcome (Page α)}
    (advanced : c.Advanced ((service.listing path codec item).read reply) given d) :
    Walking service path codec options d (log ++ [(service.pageRequest path c.options, reply)]) := by
  have due := walking.due active
  have kept := walking.kept.snoc due reply
  have counted : c.pagesFetched + 1 = (log ++ [(service.pageRequest path c.options, reply)]).length := by
    rw [List.length_append, ← walking.counted]
    rfl
  generalize read : (service.listing path codec item).read reply = fetched at advanced
  cases advanced with
  | @onward page next marked =>
    have moved : Page.Options.withMarker c.options next = { options with marker := some next } := by
      obtain ⟨marker, same⟩ := due.marked
      rw [same]
      rfl
    refine ⟨counted, kept, fun _ => ?_⟩
    rw [moved]
    exact .next (markerNamed read marked)
  | last | repeated | missing | failed => exact ⟨counted, kept, fun further => by cases further⟩

theorem exchanged (execute : Executor σ) (headers : List (String × String)) (path : String) (codec : Page.Codec)
    (item : Json.Decoder α) (valid : sent.validate = .ok ()) (s : σ) (log : List Exchange) :
    let l := (equipped headers).listing path codec item
    let request := (equipped headers).pageRequest path sent
    l.fetcher (logged execute) sent (s, log) =
      (l.read (execute request s).1, (execute request s).2, log ++ [(request, (execute request s).1)]) := by
  have checked : Page.Options.validate sent = .ok () := valid
  simp only [Page.Listing.fetcher, Page.Listing.page, checked, Dialogue.checked, Dialogue.run_once, equippedRequest,
    logged]

theorem Walking.next {headers : List (String × String)}
    (walking : Walking (equipped headers) path codec options c log) (valid : options.validate = .ok ())
    (item : Json.Decoder α) (execute : Executor σ) (s : σ) :
    let after := c.next (((equipped headers).listing path codec item).fetcher (logged execute)) (s, log)
    Walking (equipped headers) path codec options after.2.1 after.2.2.2 := by
  by_cases done : c.isDone
  · rw [Page.Cursor.nextDone done]
    exact walking
  · have active : c.phase = .active := by simpa [Page.Cursor.isDone] using done
    have passed : c.options.validate = .ok () := by
      obtain ⟨marker, same⟩ := (walking.due active).marked
      rw [same]
      exact valid
    rw [Page.Cursor.nextActive active, exchanged execute headers path codec item passed]
    exact walking.advanced active (c.advanced _)

theorem walkingEach (headers : List (String × String)) (path : String) (codec : Page.Codec) (item : Json.Decoder α)
    (valid : options.validate = .ok ()) (execute : Executor σ) (s : σ) (n : Nat) :
    let after := walked (equipped headers) path codec item execute s options n
    Walking (equipped headers) path codec options after.2.1 after.2.2.2 := by
  induction n with
  | zero => exact walkingNew _ path codec options
  | succ n ih => exact ih.next valid item execute _

theorem refusedReason {reason : Error} (bad : options.validate = .error reason) :
    ∃ why, reason = .invalidArgument why := by
  unfold Page.ListOptions.validate at bad
  split at bad
  · cases bad
    exact ⟨_, rfl⟩
  · split at bad
    · cases bad
      exact ⟨_, rfl⟩
    · cases bad

theorem refusedUnsent {reason : Error} (bad : options.validate = .error reason) (l : Page.Listing α)
    (execute : Executor σ) (s : σ) (n : Nat) :
    Page.Cursor.called (l.fetcher execute) (.new options) s (n + 1) =
      (some (.error reason) :: List.replicate n none, ⟨options, .failed, 1⟩, s) := by
  induction n with
  | zero =>
    obtain ⟨why, rfl⟩ := refusedReason bad
    have checked : Page.Options.validate options = .error (.invalidArgument why) := bad
    have fetched : l.fetcher execute options s = (.error (.invalidArgument why), s) := by
      simp only [Page.Listing.fetcher, Page.Listing.page, checked, Dialogue.checked, Dialogue.fail, Dialogue.run_done]
    have turn : (Page.Cursor.new options).next (l.fetcher execute) s =
        (some (.error (.invalidArgument why)), ⟨options, .failed, 1⟩, s) := by
      rw [Page.Cursor.new, Page.Cursor.nextActive rfl, fetched]
      rfl
    simp only [Page.Cursor.called, turn, List.nil_append, List.replicate_zero]
  | succ n ih =>
    rw [Page.Cursor.called, ih]
    dsimp only
    rw [Page.Cursor.nextDone rfl, List.replicate_succ']
    rfl

theorem optionsKept (headers : List (String × String)) (path : String) (codec : Page.Codec) (item : Json.Decoder α)
    (options : Page.ListOptions) (execute : Executor σ) (s : σ) :
    let service := equipped headers
    let walk := walked service path codec item execute s options
    let log := exchanges service path codec item execute s options
    (options.validate = .ok () → ∀ n, (walk n).2.1.pagesFetched = (log n).length ∧
      Kept service path codec options (log n)) ∧
    ∀ reason, options.validate = .error reason → (∃ why, reason = .invalidArgument why) ∧
      ∀ n, walk (n + 1) = (some (.error reason) :: List.replicate n none, ⟨options, .failed, 1⟩, s, []) := by
  refine ⟨fun valid n => ?_, fun reason bad => ⟨refusedReason bad, refusedUnsent bad _ _ _⟩⟩
  have walking := walkingEach headers path codec item valid execute s n
  exact ⟨walking.counted, walking.kept⟩

def paged : Executor Unit := fun request s =>
  (.ok (.new 200 (if request.queryValue? "marker" = some "p" then "\x7b\x7d" else "\x7b\"next\":\"p\"\x7d")), s)

theorem keptOverTwoPages :
    let service := equipped [("A", "1"), ("B", "2"), ("A", "3")]
    let codec : Page.Codec := ⟨some "items", .field "next"⟩
    let options (limit : Nat) : Page.ListOptions :=
      ⟨some limit, none, some .name, some .descending, [("tag", "x"), ("tag", "y")]⟩
    let log (limit n : Nat) := exchanges service "/n" codec Json.Decoder.json paged () (options limit) n
    service.headers = [("A", "3"), ("B", "2")] ∧ (options 2).validate = .ok () ∧
      Kept service "/n" codec (options 2) (log 2 3) ∧
      (log 2 3).map (fun e => e.1.query) =
        [[("limit", "2"), ("sort_key", "name"), ("sort_dir", "desc"), ("tag", "x"), ("tag", "y")],
          [("limit", "2"), ("marker", "p"), ("sort_key", "name"), ("sort_dir", "desc"), ("tag", "x"), ("tag", "y")]] ∧
      (options 0).validate = .error (.invalidArgument .listLimit) ∧ log 0 1 = [] := by
  intro service codec options log
  have valid : (options 2).validate = .ok () := rfl
  have bad : (options 0).validate = .error (.invalidArgument .listLimit) := rfl
  have walk (limit : Nat) := optionsKept [("A", "1"), ("B", "2"), ("A", "3")] "/n" codec Json.Decoder.json
    (options limit) paged ()
  exact ⟨by decide, valid, ((walk 2).1 valid 3).2, by decide +kernel, bad,
    congrArg (fun after => after.2.2.2) (((walk 0).2 _ bad).2 0)⟩

end Service
end CloudClient
