import CloudClient.Proofs.Resource
/-! The path of a URL of the web, read a second time. A segment that comes out of the parser has nothing left to
escape, to split at or to leave out, so a path that is made of such segments comes out as it went in. -/
namespace CloudClient.Url

open CloudClient.Text

variable {s tail : List Char}

theorem digitKept {d : Nat} (small : d < 16) : Kept (hexDigit d) := by
  have all : ∀ d < 16, ¬ isSlash true (hexDigit d) ∧ ¬ inPath (hexDigit d) := by decide
  exact ⟨(Form.hexDigitRead small).2.1, (all d small).1, (all d small).2⟩

theorem octetKept {n : Nat} (small : n < 0x100) : ∀ c ∈ percentOctet n, Kept c := by
  intro c member
  simp only [percentOctet, List.mem_cons, List.not_mem_nil, or_false] at member
  rcases member with rfl | rfl | rfl
  · exact ⟨by decide, by decide, by decide⟩
  · exact digitKept (by omega)
  · exact digitKept (by omega)

theorem encodedKept (unslashed : ∀ c ∈ s, ¬ isSlash true c) : ∀ c ∈ percentEncode inPath s, Kept c := by
  intro c member
  obtain ⟨d, source, inside⟩ := List.mem_flatMap.mp member
  split at inside
  · obtain ⟨n, octet, digit⟩ := List.mem_flatMap.mp inside
    exact octetKept (Utf8.octetOfChar octet) c digit
  · rename_i own
    cases List.mem_singleton.mp inside
    simp only [Bool.or_eq_true, decide_eq_true_eq, not_or, Nat.not_le] at own
    exact ⟨own.2, unslashed c source, own.1⟩

theorem encodedNone (none : percentEncode inPath s = []) : s = [] := by
  cases s with
  | nil => rfl
  | cons c s =>
    obtain ⟨n, octets, starts, _⟩ := Utf8.startOfChar c
    rw [percentEncode, List.flatMap_cons, starts] at none
    split at none <;> contradiction

theorem encodedFirst {d : Char} (same : percentEncode inPath s = d :: tail) :
    (∃ rest, s = d :: rest ∧ percentEncode inPath rest = tail) ∨
      d = '%' ∧ ∃ n after, n < 0x100 ∧ n ≠ 0x2E ∧ tail = hexDigit (n / 16) :: hexDigit (n % 16) :: after := by
  cases s with
  | nil => contradiction
  | cons c s =>
    rw [percentEncode, List.flatMap_cons] at same
    split at same
    · rename_i escaped
      obtain ⟨n, octets, starts, own⟩ := Utf8.startOfChar c
      rw [starts] at same
      obtain ⟨sign, octet⟩ := List.cons.inj same
      refine .inr ⟨sign.symm, n, _, Utf8.octetOfChar (starts ▸ List.mem_cons_self), ?_, octet.symm⟩
      rintro rfl
      have dot : c = '.' := Char.toNat_inj.mp (own (by decide)).symm
      exact absurd (dot ▸ escaped) (by decide)
    · obtain ⟨rfl, rest⟩ := List.cons.inj same
      exact .inl ⟨s, rfl, rest⟩

theorem encodedPlain {d : Char} (plain : d ≠ '%') (same : percentEncode inPath s = d :: tail) :
    ∃ rest, s = d :: rest ∧ percentEncode inPath rest = tail :=
  (encodedFirst same).resolve_right fun octet => plain octet.1

theorem encodedDot {front : List Char} (dot : front ∈ dotForms) (same : percentEncode inPath s = front ++ tail) :
    ∃ rest, s = front ++ rest ∧ percentEncode inPath rest = tail := by
  have digit : ∀ d < 16, (hexDigit d = '2' → d = 2) ∧ hexDigit d ≠ 'e' ∧ (hexDigit d = 'E' → d = 14) := by decide
  have written {e : Char} (plain : e ≠ '%') (letter : ∀ d < 16, hexDigit d = e → d = 14)
      (same : percentEncode inPath s = '%' :: '2' :: e :: tail) :
      ∃ rest, s = '%' :: '2' :: e :: rest ∧ percentEncode inPath rest = tail := by
    rcases encodedFirst same with ⟨rest, rfl, digits⟩ | ⟨_, n, after, small, other, octet⟩
    · obtain ⟨rest, rfl, last⟩ := encodedPlain (by decide) digits
      obtain ⟨rest, rfl, behind⟩ := encodedPlain plain last
      exact ⟨rest, rfl, behind⟩
    · obtain ⟨high, low, _⟩ := by simpa only [List.cons.injEq] using octet
      have high := (digit (n / 16) (by omega)).1 high.symm
      have low := letter (n % 16) (by omega) low.symm
      omega
  simp only [dotForms, List.mem_cons, List.not_mem_nil, or_false] at dot
  rcases dot with rfl | rfl | rfl
  · exact encodedPlain (by decide) same
  · exact written (by decide) (fun d small same => absurd same (digit d small).2.1) same
  · exact written (by decide) (fun d small => (digit d small).2.2) same

theorem singleDotEncoded (single : isSingleDot (percentEncode inPath s)) : isSingleDot s := by
  have each : ∀ front ∈ dotForms, isSingleDot (front ++ []) := by decide
  obtain ⟨front, dot, tail, none, same⟩ := undotDot (beq_iff_eq.mp single)
  obtain ⟨rest, rfl, bare⟩ := encodedDot dot same
  rw [undotNone none] at bare
  rw [encodedNone bare]
  exact each front dot

theorem doubleDotEncoded (double : isDoubleDot (percentEncode inPath s)) : isDoubleDot s := by
  have each : ∀ first ∈ dotForms, ∀ second ∈ dotForms, isDoubleDot (first ++ (second ++ [])) := by decide
  obtain ⟨first, dot, tail, next, same⟩ := undotDot (beq_iff_eq.mp double)
  obtain ⟨rest, rfl, behind⟩ := encodedDot dot same
  obtain ⟨second, dotToo, tail, none, rfl⟩ := undotDot next
  obtain ⟨rest, rfl, bare⟩ := encodedDot dotToo behind
  rw [undotNone none] at bare
  rw [encodedNone bare]
  exact each first dot second dotToo

theorem encodedSegment (some : s ≠ []) (unslashed : ∀ c ∈ s, ¬ isSlash true c) (single : ¬ isSingleDot s)
    (double : ¬ isDoubleDot s) : Segment (percentEncode inPath s) where
  some := fun none => some (encodedNone none)
  kept := encodedKept unslashed
  single := fun dot => single (singleDotEncoded dot)
  double := fun dots => double (doubleDotEncoded dots)

def Stable (path : List (List Char)) : Prop := ∀ segment ∈ path, segment = [] ∨ Segment segment

variable {path parts : List (List Char)}

theorem stableEnding (last : Bool) : Stable (if last then [[]] else []) := by
  cases last with
  | false => exact List.forall_mem_nil _
  | true => exact List.forall_mem_singleton.mpr (.inl rfl)

theorem Stable.append {others : List (List Char)} (stable : Stable path) (stableToo : Stable others) :
    Stable (path ++ others) :=
  List.forall_mem_append.mpr ⟨stable, stableToo⟩

theorem Stable.up (stable : Stable path) : Stable (dropLastSegment path) := by
  unfold dropLastSegment
  split
  · exact stable
  · exact fun segment member => stable segment (List.dropLast_subset path member)

theorem Stable.added (stable : Stable path) (unslashed : ∀ c ∈ s, ¬ isSlash true c) (last : Bool) :
    Stable (addSegment path s last) := by
  unfold addSegment
  by_cases double : isDoubleDot s
  · rw [if_pos double]
    exact stable.up.append (stableEnding last)
  by_cases single : isSingleDot s
  · rw [if_neg double, if_pos single]
    exact stable.append (stableEnding last)
  rw [if_neg double, if_neg single]
  refine stable.append (List.forall_mem_singleton.mpr ?_)
  by_cases none : s = []
  · exact .inl (by rw [none]; rfl)
  · exact .inr (encodedSegment none unslashed single double)

theorem Stable.addedEach (stable : Stable path) (unslashed : ∀ s ∈ parts, ∀ c ∈ s, ¬ isSlash true c) :
    Stable (addSegments addSegment path parts) := by
  induction parts generalizing path with
  | nil => exact stable
  | cons s parts ih =>
    obtain ⟨first, rest⟩ := List.forall_mem_cons.mp unslashed
    cases parts with
    | nil => exact stable.added first true
    | cons next parts => exact ih (stable.added first false) rest

theorem partsUnslashed (slash : Char → Bool) (s : List Char) :
    ∀ part ∈ splitSegments slash s, ∀ c ∈ part, ¬ slash c := by
  induction s with
  | nil => exact List.forall_mem_singleton.mpr (List.forall_mem_nil _)
  | cons c s ih =>
    rw [splitSegments]
    split
    · exact List.forall_mem_cons.mpr ⟨List.forall_mem_nil _, ih⟩
    · rename_i other
      obtain ⟨part, parts, same⟩ := List.exists_cons_of_ne_nil (splitSome slash s)
      rw [same] at ih ⊢
      obtain ⟨first, rest⟩ := List.forall_mem_cons.mp ih
      exact List.forall_mem_cons.mpr ⟨List.forall_mem_cons.mpr ⟨other, first⟩, rest⟩

theorem segmentsStable {scheme : List Char} (special : isSpecial scheme) (s : List Char) :
    ∃ path, readSegments scheme s = .segments path ∧ Stable path := by
  have unslashed := partsUnslashed (isSlash (isSpecial scheme)) s
  rw [special] at unslashed
  have start : Stable [] := List.forall_mem_nil _
  exact ⟨_, rfl, start.addedEach (special ▸ unslashed)⟩

def Segmented (read : Parts) : Prop :=
  isFile read.scheme ∨ (isSpecial read.scheme → ∃ below, read.path = readSegments read.scheme below)

variable {scheme : List Char} {tail : Bool} {read : Parts}

theorem hierarchySegmented (done : readHierarchy scheme s tail = .ok read) : Segmented read := by
  unfold readHierarchy at done
  dsimp only at done
  split at done
  · contradiction
  · cases done
    refine .inr fun special => ?_
    dsimp only at special ⊢
    rw [special, Bool.not_true, Bool.and_false, if_neg Bool.false_ne_true]
    split <;> exact ⟨_, rfl⟩

theorem relativeSegmented {origin : Origin} (done : readRelative origin s tail = .ok read) : Segmented read := by
  unfold readRelative at done
  dsimp only at done
  split at done
  · exact hierarchySegmented done
  · split at done
    · exact hierarchySegmented done
    · cases done
      exact .inr fun _ => ⟨_, rfl⟩
  · cases done
    exact .inr fun _ => ⟨_, rfl⟩

theorem plainSegmented (plain : ¬ isSpecial scheme) (done : readPlain scheme s tail = .ok read) : Segmented read := by
  unfold readPlain at done
  split at done
  · exact hierarchySegmented done
  · cases done
    exact .inr fun special => absurd special plain
  · cases done
    exact .inr fun special => absurd special plain

theorem fileSegmented (done : readFile s = .ok read) : Segmented read := by
  have scheme : read.scheme = "file".toList := by
    unfold readFile at done
    dsimp only at done
    split at done
    · cases done
      rfl
    · split at done
      · cases done
        rfl
      · split at done
        · cases done
          rfl
        · split at done
          · contradiction
          · cases done
            rfl
  exact .inl (beq_iff_eq.mpr scheme)

theorem partsSegmented {origin : Option Origin} (done : readParts origin s tail = .ok read) : Segmented read := by
  unfold readParts at done
  split at done
  · split at done
    · exact fileSegmented done
    · split at done
      · dsimp only at done
        split at done
        · split at done
          · exact relativeSegmented done
          · exact hierarchySegmented done
        · exact hierarchySegmented done
      · rename_i plain
        exact plainSegmented plain done
  · exact relativeSegmented done
  · contradiction

theorem parsedStable {origin : Option Origin} {text : String} {url : Url} (parsed : Url.parse origin text = .ok url)
    (special : isSpecial url.scheme) (other : ¬ isFile url.scheme) :
    ∃ path, url.path = .segments path ∧ Stable path := by
  unfold Url.parse at parsed
  dsimp only at parsed
  split at parsed
  · contradiction
  · rename_i done
    cases parsed
    obtain ⟨below, same⟩ := (partsSegmented done).resolve_left other special
    obtain ⟨path, segments, stable⟩ := segmentsStable special below
    exact ⟨path, same.trans segments, stable⟩

variable {slash : Char → Bool} {first : List Char} {rest : List (List Char)}

theorem splitSegment {c : Char} (slashed : slash c) (unslashed : ∀ c ∈ first, ¬ slash c) (s : List Char) :
    splitSegments slash (first ++ c :: s) = first :: splitSegments slash s := by
  induction first with
  | nil => exact if_pos slashed
  | cons d first ih =>
    obtain ⟨own, others⟩ := List.forall_mem_cons.mp unslashed
    rw [List.cons_append, splitSegments, if_neg own, ih others]

theorem splitJoined (mark : slash '/') (unslashed : ∀ s ∈ first :: rest, ∀ c ∈ s, ¬ slash c) :
    splitSegments slash (first ++ rest.flatMap ('/' :: ·)) = first :: rest := by
  induction rest generalizing first with
  | nil =>
    rw [List.flatMap_nil, List.append_nil]
    exact splitUnslashed (unslashed first List.mem_cons_self)
  | cons next rest ih =>
    obtain ⟨own, others⟩ := List.forall_mem_cons.mp unslashed
    rw [List.flatMap_cons, List.cons_append, splitSegment mark own, ih others]

theorem addedWhole (whole : ∀ s ∈ rest, Segment s) : addSegments addSegment path rest = path ++ rest := by
  induction rest generalizing path with
  | nil => exact (List.append_nil path).symm
  | cons s rest ih =>
    obtain ⟨own, others⟩ := List.forall_mem_cons.mp whole
    cases rest with
    | nil => exact own.added path true
    | cons next rest =>
      have step : addSegments addSegment path (s :: next :: rest) =
          addSegments addSegment (addSegment path s false) (next :: rest) := rfl
      rw [step, own.added, ih others, List.append_assoc, List.singleton_append]

theorem readWritten (scheme : List Char) (whole : ∀ s ∈ first :: rest, Segment s) :
    readPath scheme ((first :: rest).flatMap ('/' :: ·)) = .segments (first :: rest) := by
  have split : splitSegments (isSlash (isSpecial scheme)) (first ++ rest.flatMap ('/' :: ·)) = first :: rest :=
    splitJoined rfl fun s member => (whole s member).unslashed _
  have below : dropSlash (isSpecial scheme) ((first :: rest).flatMap ('/' :: ·)) =
      first ++ rest.flatMap ('/' :: ·) := rfl
  rw [readPath, below, readSegments, split, addedWhole whole, List.nil_append]

theorem Kept.plain {c : Char} (kept : Kept c) : c ≠ '?' ∧ c ≠ '#' := by
  constructor <;> rintro rfl <;> exact absurd kept.unescaped (by decide)

theorem parsedWritten {origin : Origin} (special : isSpecial origin.scheme) (whole : ∀ s ∈ first :: rest, Segment s) :
    Url.parse (some origin) (String.ofList ((first :: rest).flatMap ('/' :: ·))) =
      .ok ⟨origin.scheme, origin.host, origin.port, .segments (first :: rest), none, none⟩ := by
  have each : ∀ c ∈ (first :: rest).flatMap ('/' :: ·), c = '/' ∨ Kept c := by
    intro c member
    obtain ⟨s, inside, own⟩ := List.mem_flatMap.mp member
    exact (List.mem_cons.mp own).imp_right ((whole s inside).kept c)
  have visible : ∀ c ∈ (first :: rest).flatMap ('/' :: ·), 0x20 < c.toNat := fun c member =>
    (each c member).elim (fun mark => mark ▸ by decide) Kept.visible
  have plain : ∀ c ∈ (first :: rest).flatMap ('/' :: ·), c ≠ '?' ∧ c ≠ '#' := fun c member =>
    (each c member).elim (fun mark => mark ▸ by decide) Kept.plain
  have rooted : ∀ c, (first ++ rest.flatMap ('/' :: ·)).head? = some c → ¬ isSlash true c := by
    obtain ⟨d, front, same⟩ := List.exists_cons_of_ne_nil (whole first List.mem_cons_self).some
    intro c is
    rw [same, List.cons_append, List.head?_cons] at is
    cases Option.some.inj is
    exact (whole first List.mem_cons_self).unslashed true d (same ▸ List.mem_cons_self)
  have unbroken : ∀ c ∈ first ++ rest.flatMap ('/' :: ·), ¬ isBreak c := fun c member =>
    visibleJoined (visible c (List.mem_cons_of_mem '/' member))
  rw [parsedBare (fun c is => visible c (List.mem_of_head? is)) (fun c is => visible c (List.mem_of_getLast? is))
    plain (readRooted rooted unbroken special), ← readWritten origin.scheme whole]
  rfl

end CloudClient.Url
