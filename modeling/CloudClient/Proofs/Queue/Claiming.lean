import CloudClient.Proofs.Queue.Views
import CloudClient.Proofs.Queue.Wire
/-! What a claim takes. The store may still have lapsed claims and expired messages when the claim comes; it
gives out the oldest of the messages that reads find without a holder, and to everyone else the store
reads afterwards as it did before. -/
namespace CloudClient.Queue.Store

def unheld (calls : List Call) (now : Nat) : List Message := (found calls now).filter (·.claim.isNone)

structure Claimed (s t : Store) (call : Call) (request : ClaimRequest) (given : List Message) : Prop where
  answered : s.answer call = .ok (.messages given)
  unknown : ∀ time, s.getClaim time call.fresh.claim = none
  listed : given ≠ [] → t.getClaim call.now call.fresh.claim =
    some ⟨call.fresh.claim, request.ttl, some request.grace, .zero, given⟩
  lasting : given ≠ [] → ∀ later, call.now ≤ later → later < call.now + request.hold.nanos →
    ∃ claim, t.getClaim later call.fresh.claim = some claim ∧ claim.ttl = request.ttl ∧
      claim.grace = some request.grace ∧ claim.messages.map (·.id) = given.map (·.id)
  ended : ∀ later, call.now + request.hold.nanos ≤ later → t.getClaim later call.fresh.claim = none
  nothing : given = [] → ∀ time, t.getClaim time call.fresh.claim = none
  others : ∀ later, call.now ≤ later → ∀ id ∉ given.map (·.id), t.get later id = s.get later id
  otherClaims : ∀ later, call.now ≤ later → ∀ d ≠ call.fresh.claim, t.getClaim later d = s.getClaim later d

variable {s : Store} {now later : Nat} {c d : ClaimId} {request : ClaimRequest}

theorem getClaimAbsent (absent : c ∉ s.holds.map (·.id)) (now : Nat) : s.getClaim now c = none := by
  have none : s.hold? c = none := holdNone.mpr fun h hh same => absent (List.mem_map.mpr ⟨h, hh, same⟩)
  rw [getClaim, liveHold?, none]
  rfl

theorem chosenViews (w : WellFormed s) (now : Nat) (c : ClaimId) (limit : Nat) :
    ((s.purge now).chosen limit).map (handed c now) =
      ((((s.live now).map fun m => s.view m now).filter (·.claim.isNone)).take limit).map
        fun m => { m with claim := some c } := by
  rw [chosen, w.purgeMessages, List.filter_map, List.filter_map, ← List.map_take, ← List.map_take, List.map_map,
    List.map_map]
  rfl

section Grant

variable {taken : List Stored} (w : WellFormed s) (now : Nat) (request : ClaimRequest)
  (part : taken.Sublist s.messages) (free : ∀ m ∈ taken, m.claim = none) (unused : c ∉ s.holds.map (·.id))
include w part free unused

theorem grantedHolder {m : Stored} (member : m ∈ s.messages) (left : m.seq ∉ taken.map (·.seq)) (later : Nat) :
    (s.granted now c request taken).holder? m later = s.holder? m later := by
  have inside : m ∈ (s.granted now c request taken).messages := List.mem_map.mpr ⟨m, member, if_neg left⟩
  refine Option.ext fun d => ?_
  rw [(w.granted now request part free unused).holder inside, w.holder member]
  refine and_congr_right fun under => ⟨?_, ?_⟩
  · rintro ⟨h, hh, same, lives⟩
    rcases List.mem_append.mp hh with old | new
    · exact ⟨h, old, same, lives⟩
    · cases List.mem_singleton.mp new
      obtain ⟨g, hg, named, _⟩ := w.backed m member d under
      exact absurd (List.mem_map.mpr ⟨g, hg, named.trans same.symm⟩) unused
  · rintro ⟨h, hh, same, lives⟩
    exact ⟨h, List.mem_append_left _ hh, same, lives⟩

theorem grantedGet {id : MessageId} (left : id ∉ taken.map (·.id)) (later : Nat) :
    (s.granted now c request taken).get later id = s.get later id := by
  have spared : ∀ m ∈ s.messages, m.id = id → m.seq ∉ taken.map (·.seq) := by
    rintro m member rfl listed
    obtain ⟨n, hn, same⟩ := List.mem_map.mp listed
    exact left (List.mem_map.mpr ⟨n, hn, congrArg Stored.id (w.keyed.sameSeq (part.subset hn) member same)⟩)
  have same : ∀ m ∈ s.messages, m.id = id → granting c (now + request.hold.nanos) (taken.map (·.seq)) m = m :=
    fun m member named => if_neg (spared m member named)
  have seen : ∀ m ∈ s.messages, m.id = id → (s.granted now c request taken).view m later = s.view m later := by
    intro m member named
    rw [view, view, grantedHolder w now request part free unused member (spared m member named)]
  refine Option.ext fun shown => ?_
  rw [getIff (w.granted now request part free unused).keyed, getIff w.keyed]
  constructor
  · rintro ⟨_, inside, named, lives, rfl⟩
    obtain ⟨m, member, rfl⟩ := List.mem_map.mp inside
    rw [grantingId] at named
    rw [same m member named] at lives ⊢
    exact ⟨m, member, named, lives, (seen m member named).symm⟩
  · rintro ⟨m, member, named, lives, rfl⟩
    exact ⟨m, List.mem_map.mpr ⟨m, member, same m member named⟩, named, lives, seen m member named⟩

theorem grantedOthers (other : d ≠ c) (later : Nat) :
    (s.granted now c request taken).getClaim later d = s.getClaim later d := by
  have well := w.granted now request part free unused
  have held : (s.granted now c request taken).liveHold? d later = s.liveHold? d later := by
    refine Option.ext fun h => ?_
    rw [well.liveHoldIff, w.liveHoldIff]
    constructor
    · rintro ⟨hh, named, lives⟩
      rcases List.mem_append.mp hh with old | new
      · exact ⟨old, named, lives⟩
      · cases List.mem_singleton.mp new
        exact absurd named.symm other
    · rintro ⟨hh, named, lives⟩
      exact ⟨List.mem_append_left _ hh, named, lives⟩
  rw [getClaim, getClaim, held]
  refine Option.map_congr fun h live => ?_
  obtain ⟨hh, named, _⟩ := w.liveHoldIff.mp live
  rw [viewAllEq, viewAllEq]
  congr 1
  refine List.filterMap_congr fun id listed => ?_
  refine grantedGet w now request part free unused (fun chosen => ?_) later
  -- what was taken was under no claim, so it is on no other list
  obtain ⟨m, hm, rfl⟩ := List.mem_map.mp chosen
  have under := (w.listedIff hh (part.subset hm)).mp listed
  rw [free m hm] at under
  contradiction

theorem grantedHeld (later : Nat) :
    (s.granted now c request taken).getClaim later c =
      if later < now + request.hold.nanos then
        some ⟨c, request.ttl, some request.grace, ⟨later - now⟩, taken.map (handed c later)⟩
      else none := by
  have well := w.granted now request part free unused
  let made : Hold := ⟨c, request.ttl, request.grace, now, taken.map (·.id)⟩
  have stored : (s.granted now c request taken).hold? c = some made :=
    well.hold (List.mem_append_right _ (List.mem_singleton.mpr rfl))
  have ends : made.until = now + request.hold.nanos := by
    simp only [made, Hold.until, ClaimRequest.hold, Duration.nanos_add, Nat.add_assoc]
  rw [getClaim, liveHold?, stored, Option.filter_some, ends]
  by_cases lasts : later < now + request.hold.nanos
  · rw [if_pos lasts, if_pos (decide_eq_true lasts), Option.map_some, grantedView w lasts part free unused]
  · rw [if_neg lasts, if_neg (by simpa using lasts), Option.map_none]

end Grant

variable {call : Call}

theorem claimedSome (w : WellFormed s) (valid : request.validate = .ok ()) {taken : List Stored}
    (part : taken.Sublist (s.purge call.now).messages) (free : ∀ m ∈ taken, m.claim = none)
    (unused : call.fresh.claim ∉ s.holds.map (·.id)) (some : taken ≠ [])
    (answered : s.answer call = .ok (.messages (taken.map (handed call.fresh.claim call.now)))) :
    Claimed s ((s.purge call.now).granted call.now call.fresh.claim request taken) call request
      (taken.map (handed call.fresh.claim call.now)) := by
  have p := w.purged call.now
  have gone := w.purgeUnused unused call.now
  have held := grantedHeld p call.now request part free gone
  have lasts := Nat.lt_add_of_pos_right (n := call.now) (ClaimRequest.holdPositive valid)
  exact {
    answered
    unknown := getClaimAbsent unused
    listed _ := by
      rw [held, if_pos lasts, Nat.sub_self]
      rfl
    lasting _ later _ before := ⟨_, (held later).trans (if_pos before), rfl, rfl, by rw [handedIds, handedIds]⟩
    ended later past := (held later).trans (if_neg (Nat.not_lt.mpr past))
    nothing none := absurd (List.map_eq_nil_iff.mp none) some
    others later order id left := by
      rw [handedIds] at left
      rw [grantedGet p call.now request part free gone left, getLater w order]
    otherClaims later order d other := by
      rw [grantedOthers p call.now request part free gone other, getClaimLater w order] }

theorem claimedNone (w : WellFormed s) (unused : call.fresh.claim ∉ s.holds.map (·.id))
    (answered : s.answer call = .ok (.messages [])) : Claimed s (s.purge call.now) call request [] := by
  have gone := w.purgeUnused unused call.now
  exact {
    answered
    unknown := getClaimAbsent unused
    listed some := absurd rfl some
    lasting some := absurd rfl some
    ended later _ := getClaimAbsent gone later
    nothing _ := getClaimAbsent gone
    others later order id _ := getLater w order id
    otherClaims later order d _ := getClaimLater w order d }

theorem claimed (w : WellFormed s) (own : call.command = .claim request) (valid : request.validate = .ok ())
    (unused : call.fresh.claim ∉ s.holds.map (·.id)) :
    Claimed s (s.after call) call request
      (((s.purge call.now).chosen request.limit).map (handed call.fresh.claim call.now)) := by
  let taken := (s.purge call.now).chosen request.limit
  have answered : s.answer call = .ok (.messages (taken.map (handed call.fresh.claim call.now))) := by
    rw [answer, own, perform, claimAnswer w call.now valid unused]
    rfl
  have left : s.after call = if taken = [] then s.purge call.now else
      (s.purge call.now).granted call.now call.fresh.claim request taken := by
    rw [after, own, perform, claimAnswer w call.now valid unused]
  by_cases none : taken = []
  · rw [left, if_pos none]
    rw [none] at answered
    rw [show (s.purge call.now).chosen request.limit = [] from none]
    exact claimedNone w unused answered
  · rw [left, if_neg none]
    exact claimedSome w valid (chosenPart _ _) (fun m => chosenFree) unused none answered

theorem claimedOldestFirst {calls : List Call} (fresh : FreshIds (calls ++ [call]))
    (own : call.command = .claim request) (valid : (Command.claim request).Valid) :
    let given := ((unheld calls call.now).take request.limit).map fun m => { m with claim := some call.fresh.claim }
    Claimed (empty.run calls) (empty.run (calls ++ [call])) call request given ∧
      given.length = min request.limit (unheld calls call.now).length ∧
      (given = [] ↔ unheld calls call.now = []) ∧ posted (calls ++ [call]) = posted calls := by
  intro given
  have before : FreshIds calls := fresh.forEmpty.earlier
  have w := reachedWellFormed before
  have next : FreshFor (empty.run calls) [call] := fresh.forEmpty.later emptyWellFormed
  have unused := next.unheld (claimIdsOfClaim own ▸ List.mem_singleton.mpr rfl)
  have passed : request.validate = .ok () := (claimDecided request).passed valid
  have same : given = (((empty.run calls).purge call.now).chosen request.limit).map
      (handed call.fresh.claim call.now) := by
    rw [chosenViews w, ← foundRows before]
    rfl
  refine ⟨?_, ?_, ?_, ?_⟩
  · rw [runAppend, same]
    exact claimed w own passed unused
  · rw [List.length_map, List.length_take]
  · have positive : request.limit ≠ 0 := Nat.ne_of_gt valid.2.2.1
    simp [given, positive]
  · rw [posted, historyAppend, List.flatMap_append, history, history, List.flatMap_singleton, own]
    exact List.append_nil _

theorem claimedPastALapse :
    let request (seconds limit : Nat) : ClaimRequest := ⟨.ofSeconds seconds, .ofSeconds 60, limit⟩
    let calls : List Call := [
      ⟨⟨"a"⟩, 0, .named ["k", "l", "m", "n", "o"] "",
        .post ([900, 900, 60, 900, 900].map fun seconds => ⟨.ofSeconds seconds, .null⟩)⟩,
      ⟨⟨"b"⟩, 1, .named [] "c", .claim (request 60 1)⟩,
      ⟨⟨"b"⟩, 2, .named [] "d", .claim (request 300 1)⟩]
    let call : Call := ⟨⟨"b"⟩, 200000000000, .named [] "e", .claim (request 60 2)⟩
    let given := ((unheld calls call.now).take 2).map fun m => { m with claim := some call.fresh.claim }
    FreshIds (calls ++ [call]) ∧ (Command.claim (request 60 2)).Valid ∧
      (unheld calls call.now).map (·.id.text) = ["k", "n", "o"] ∧ given.map (·.id.text) = ["k", "n"] ∧
      Claimed (empty.run calls) (empty.run (calls ++ [call])) call (request 60 2) given := by
  intro request calls call
  dsimp only
  have fresh : FreshIds (calls ++ [call]) := by decide
  have valid : (Command.claim (request 60 2)).Valid := ⟨by decide, by decide, by decide⟩
  exact ⟨fresh, valid, by decide +kernel, by decide +kernel, (claimedOldestFirst fresh rfl valid).1⟩

end CloudClient.Queue.Store
