import CloudClient.Proofs.Url.Path
import CloudClient.Queue.Remote
/-! Addresses of messages and claims. The id of either is taken out of an href and goes into the path of a request
as it is; there it stands for one segment again, and for the same one. -/
namespace CloudClient

open Url

def Url.OfWeb (scheme : List Char) : Prop := scheme = "http".toList ∨ scheme = "https".toList

theorem Url.OfWeb.special {scheme : List Char} (web : OfWeb scheme) : isSpecial scheme := by
  rcases web with rfl | rfl <;> decide

theorem Url.OfWeb.other {scheme : List Char} (web : OfWeb scheme) : ¬ isFile scheme := by
  rcases web with rfl | rfl <;> decide

namespace Href

variable {href id : String} {url : Url}

theorem namedMember {path : List (List Char)} (parsed : parse href = .ok url) (segments : url.path = .segments path)
    (named : lastSegment href = .ok id) : id.toList ∈ path ∧ id.toList ≠ [] := by
  have all : url.pathSegments.getD [] = path := by
    unfold Url.pathSegments
    rw [segments]
    cases path <;> rfl
  rw [lastSegment, parsed, Except.bind, all] at named
  split at named
  · rename_i segment last
    cases named
    obtain ⟨member, some⟩ := List.mem_filter.mp (List.mem_of_getLast? last)
    rw [String.toList_ofList]
    exact ⟨member, bne_iff_ne.mp some⟩
  · contradiction

theorem namedSegment (parsed : parse href = .ok url) (web : OfWeb url.scheme) (named : lastSegment href = .ok id) :
    Segment id.toList := by
  obtain ⟨path, segments, stable⟩ := parsedStable (parsedIff.mp parsed) web.special web.other
  obtain ⟨member, some⟩ := namedMember parsed segments named
  exact (stable _ member).resolve_left some

end Href

namespace Queue

theorem nameCharKept {c : Char} (valid : isNameChar c) : Kept c ∧ c ≠ '.' ∧ c ≠ '%' := by
  have cases : (isAlpha c ∨ isDecimal c) ∨ c = '_' ∨ c = '-' := by
    simpa [isNameChar, isAlpha, isDecimal, or_assoc] using valid
  rcases cases with literal | rfl | rfl
  · exact literalKept literal
  · exact ⟨⟨by decide, by decide, by decide⟩, by decide, by decide⟩
  · exact ⟨⟨by decide, by decide, by decide⟩, by decide, by decide⟩

theorem nameSegment {name : String} (valid : isQueueName name) : Segment name.toList := by
  simp only [isQueueName, Bool.and_eq_true, Bool.not_eq_true', List.all_eq_true] at valid
  obtain ⟨⟨some, _⟩, each⟩ := valid
  cases text : name.toList with
  | nil =>
    cases String.toList_eq_nil_iff.mp text
    exact nomatch some
  | cons first rest =>
    rw [text] at each
    exact keptSegment (fun c member => (nameCharKept (each c member)).1)
      (nameCharKept (each first List.mem_cons_self)).2

structure Addresses (q : Remote) (kind id path : String) : Prop where
  parsed : ∀ origin : Origin, OfWeb origin.scheme →
    Url.parse (some origin) path = .ok ⟨origin.scheme, origin.host, origin.port,
      .segments (["v1", "queues", q.name, kind, id].map String.toList), none, none⟩
  named : Href.lastSegment path = .ok id

variable {kind id : String}

theorem pathWritten (q : Remote) (kind id : String) : q.path (kind ++ "/" ++ id) =
    String.ofList ((["v1", "queues", q.name, kind, id].map String.toList).flatMap ('/' :: ·)) := by
  apply String.toList_inj.mp
  simp [Remote.path, apiPrefix]

theorem addressed (q : Remote) (literal : Literal kind.toList) (own : Segment id.toList) :
    Addresses q kind id (q.path (kind ++ "/" ++ id)) := by
  have version : Literal "v1".toList := literalAll (List.cons_ne_nil _ _) rfl
  have root : Literal "queues".toList := literalAll (List.cons_ne_nil _ _) rfl
  have whole : ∀ s ∈ ["v1", "queues", q.name, kind, id].map String.toList, Segment s := by
    simp only [List.map_cons, List.map_nil, List.forall_mem_cons]
    exact ⟨version.segment, root.segment, nameSegment q.name_ok, literal.segment, own, List.forall_mem_nil _⟩
  have parsed (origin : Origin) (web : OfWeb origin.scheme) := parsedWritten web.special whole
  have here := Href.parsedIff.mpr (parsed Href.origin (.inl rfl))
  have above : ["v1", "queues", q.name, kind, id].map String.toList =
      ["v1", "queues", q.name, kind].map String.toList ++ [id.toList] := rfl
  have last := Href.segmentOfPath here own (congrArg Path.segments above)
  rw [String.ofList_toList] at last
  exact pathWritten q kind id ▸ ⟨parsed, last⟩

theorem addressedAgain {href id : String} {url : Url} (parsed : Href.parse href = .ok url)
    (web : OfWeb url.scheme) (named : Href.lastSegment href = .ok id) (q : Remote) :
    Addresses q "messages" id (q.messagePath ⟨id⟩) ∧ Addresses q "claims" id (q.claimPath ⟨id⟩) := by
  have own := Href.namedSegment parsed web named
  have messages : Literal "messages".toList := literalAll (List.cons_ne_nil _ _) rfl
  have claims : Literal "claims".toList := literalAll (List.cons_ne_nil _ _) rfl
  exact ⟨addressed q messages own, addressed q claims own⟩

theorem addressedAfterDots :
    let href := "HTTPS://cloud.example/v1\\queues/../%2e/\té %2E,b\\/?claim_id=c#d"
    let id := "%C3%A9%20%2E,b"
    let q : Remote := ⟨"demo", ⟨"p"⟩, rfl⟩
    (Href.parse href).toOption.map (·.scheme) = some "https".toList ∧ Href.lastSegment href = .ok id ∧
      q.messagePath ⟨id⟩ = "/v1/queues/demo/messages/%C3%A9%20%2E,b" ∧
      Addresses q "messages" id (q.messagePath ⟨id⟩) ∧ Addresses q "claims" id (q.claimPath ⟨id⟩) := by
  intro href id q
  have scheme : (Href.parse href).toOption.map (·.scheme) = some "https".toList := by decide +kernel
  have named : Href.lastSegment href = .ok id := by decide +kernel
  refine ⟨scheme, named, by decide, ?_⟩
  cases parsed : Href.parse href with
  | error e => simp [parsed, Except.toOption] at scheme
  | ok url =>
    rw [parsed] at scheme
    exact addressedAgain parsed (.inr (Option.some.inj scheme)) named q

end Queue
end CloudClient
