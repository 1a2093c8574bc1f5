import Mathlib.Data.List.TakeWhile
import SchemaScaffold.Proofs.Url.Segments

/-!
# Longer addresses

An address that goes on with segments behind a slash has the scheme, the host and the port that it
had, and its path goes on, unless what stands behind its scheme has another meaning in front of a
slash.
-/

namespace SchemaScaffold
namespace Url

open Path (IsPlain goesOn_dropSlash goesOn_ofText)
open Text (joinWith)

/-- A text without the marks of queries and fragments. -/
def IsUnmarked (text : List Char) : Prop :=
  '?' ∉ text ∧ '#' ∉ text

namespace IsUnmarked

variable {text : List Char}

theorem beforeQuery (unmarked : IsUnmarked text) : beforeQuery text = text := by
  refine List.takeWhile_eq_self_iff.2 fun c member => ?_
  have mark : c ≠ '?' := fun same => unmarked.1 (same ▸ member)
  have sign : c ≠ '#' := fun same => unmarked.2 (same ▸ member)
  simp [mark, sign]

theorem of_subset {part : List Char} (unmarked : IsUnmarked text) (within : part ⊆ text) :
    IsUnmarked part :=
  ⟨fun member => unmarked.1 (within member), fun member => unmarked.2 (within member)⟩

theorem append {right : List Char} (left : IsUnmarked text) (other : IsUnmarked right) :
    IsUnmarked (text ++ right) := by
  simp [IsUnmarked, left.1, left.2, other.1, other.2]

end IsUnmarked

/-- What follows a text starts with a slash. -/
def StartsWithSlash (tail : List Char) : Prop :=
  ∀ c ∈ tail.head?, c = '/'

theorem startsWithSlash_replicate (count : Nat) :
    StartsWithSlash (List.replicate count '/') := by
  cases count <;> simp [StartsWithSlash, List.replicate_succ]

theorem startsWithSlash_cons (rest : List Char) : StartsWithSlash ('/' :: rest) := by
  simp [StartsWithSlash]

/-- A text is parted at the end of its authority, whatever follows behind a slash. -/
theorem exists_authority (backslashes : Bool) (text : List Char) :
    ∃ authority rest, authority ++ rest = text ∧ ∀ tail, StartsWithSlash tail →
      (text ++ tail).takeWhile (fun c => !endsAuthority backslashes c) = authority ∧
        (text ++ tail).dropWhile (fun c => !endsAuthority backslashes c) = rest ++ tail := by
  refine ⟨_, _, List.takeWhile_append_dropWhile
    (p := fun c => !endsAuthority backslashes c) (l := text), fun tail slash => ?_⟩
  induction text with
  | nil =>
    cases tail with
    | nil => simp
    | cons c rest =>
      obtain rfl : c = '/' := slash c rfl
      simp [endsAuthority]
  | cons c rest ih =>
    cases own : endsAuthority backslashes c <;> simp [own, ih]

/-- An address with the same parts as an older one whose path goes on. -/
structure Continues (segments : List (List Char)) (old new : Url) : Prop where
  scheme : new.scheme = old.scheme
  host : new.host = old.host
  port : new.port = old.port
  path : Path.GoesOn segments old.segments new.segments

/-- What holds of slashes and of the characters of segments holds of those of a path. -/
theorem forall_mem_joinWith {segments : List (List Char)} {property : Char → Prop}
    (slash : property '/') (each : ∀ segment ∈ segments, ∀ c ∈ segment, property c) :
    ∀ c ∈ joinWith ['/'] segments, property c := by
  induction segments with
  | nil => simp [joinWith]
  | cons segment rest ih =>
    obtain ⟨first, others⟩ := List.forall_mem_cons.1 each
    cases rest with
    | nil => simpa [joinWith] using first
    | cons next more =>
      rw [joinWith]
      · exact List.forall_mem_append.2 ⟨List.forall_mem_append.2 ⟨first, by simpa using slash⟩,
          ih others⟩
      · simp

section Plain

variable {segments : List (List Char)}
  (plain : ∀ segment ∈ segments, IsPlain segment ∧ segment ≠ [])

include plain

theorem isUnmarked_joinWith : IsUnmarked (joinWith ['/'] segments) := by
  have kept : ∀ c ∈ joinWith ['/'] segments, Path.keeps c = true :=
    forall_mem_joinWith (by decide)
      fun segment member c inside => ((plain segment member).1 c inside).1
  exact ⟨fun member => absurd (kept _ member) (by decide),
    fun member => absurd (kept _ member) (by decide)⟩

theorem isUnmarked_tails {text : List Char} (unmarked : IsUnmarked text) (count : Nat) :
    IsUnmarked (text ++ List.replicate count '/') ∧
      IsUnmarked (text ++ '/' :: joinWith ['/'] segments) := by
  have slashes : IsUnmarked (List.replicate count '/') := by
    simp [IsUnmarked, List.mem_replicate]
  have slash : IsUnmarked ['/'] := by simp [IsUnmarked]
  exact ⟨unmarked.append slashes, unmarked.append (slash.append (isUnmarked_joinWith plain))⟩

theorem goesOn_pathSegments (backslashes : Bool) {text : List Char} (unmarked : IsUnmarked text)
    (count : Nat) :
    Path.GoesOn segments (pathSegments backslashes (text ++ List.replicate count '/'))
      (pathSegments backslashes (text ++ '/' :: joinWith ['/'] segments)) := by
  obtain ⟨old, new⟩ := isUnmarked_tails plain unmarked count
  have nonempty : (text ++ '/' :: joinWith ['/'] segments).isEmpty = false := by simp
  simp only [pathSegments, old.beforeQuery, new.beforeQuery, nonempty]
  split
  · next empty =>
    obtain ⟨rfl, -⟩ := List.append_eq_nil_iff.1 (List.isEmpty_iff.1 empty)
    exact Path.goesOn_nil plain backslashes
  · exact goesOn_dropSlash plain backslashes text count

theorem continues_localFile {text : List Char} (unmarked : IsUnmarked text) (count : Nat) :
    Continues segments (localFile (text ++ List.replicate count '/'))
        (localFile (text ++ '/' :: joinWith ['/'] segments)) ∧
      Continues segments (localFile (dropSlash true (text ++ List.replicate count '/')))
        (localFile (dropSlash true (text ++ '/' :: joinWith ['/'] segments))) := by
  obtain ⟨old, new⟩ := isUnmarked_tails plain unmarked count
  have within (whole : List Char) : dropSlash true whole ⊆ whole := by
    cases whole with
    | nil => simp [dropSlash]
    | cons c rest =>
      rw [dropSlash]
      split
      · exact List.subset_cons_self c rest
      · exact List.Subset.refl _
  refine ⟨⟨rfl, rfl, rfl, ?_⟩, rfl, rfl, rfl, ?_⟩
  · simp only [localFile, old.beforeQuery, new.beforeQuery, Path.ofFileText_eq]
    exact (goesOn_ofText plain true text count).normalizeFirst
  · simp only [localFile, (old.of_subset (within _)).beforeQuery,
      (new.of_subset (within _)).beforeQuery, Path.ofFileText_eq]
    exact (goesOn_dropSlash plain true text count).normalizeFirst

end Plain

/-- A host is missing. -/
def refuseIf (missing : Bool) : Except Fault Unit :=
  if missing then .error .emptyHost else .ok ()

/-- Parts of an address that takes an authority, but for its path: the host, the port, and what is
left of the authority. -/
def authorityParts (scheme authority : List Char) :
    Except Fault (Option Host × Option Nat × List Char) :=
  let web := SchemeKind.ofScheme scheme = .web
  let (user, place) := splitUser authority
  let (hostText, portText) := splitHost false place
  refuseIf (web && hostText.isEmpty) >>= fun _ =>
    (if web then Host.ofDomain hostText else Host.ofName hostText) >>= fun host =>
      refuseIf (hostText.isEmpty && !portText.isEmpty) >>= fun _ =>
        port? (webPorts.lookup scheme) portText >>= fun (port, behind) =>
          refuseIf (hostText.isEmpty &&
              user.any fun value => !value.isEmpty && value != [':']) >>= fun _ =>
            .ok (if hostText.isEmpty then none else some host, port, behind)

theorem bind_eq_ok {α β : Type} {read : Except Fault α} {next : α → Except Fault β} {result : β} :
    read >>= next = .ok result ↔ ∃ value, read = .ok value ∧ next value = .ok result := by
  cases read <;> simp [bind, Except.bind]

/-- All but the path depends on the authority only, and on whether anything follows it. -/
theorem ofAuthority_eq (scheme text : List Char) :
    ofAuthority scheme text =
      let web := SchemeKind.ofScheme scheme = .web
      let authority := text.takeWhile fun c => !endsAuthority web c
      let rest := text.dropWhile fun c => !endsAuthority web c
      refuseIf ((splitUser authority).1 = some [] && (splitUser authority).2.isEmpty &&
          !rest.isEmpty) >>= fun _ =>
        (authorityParts scheme authority).map fun parts =>
          ⟨scheme, parts.1, parts.2.1, pathSegments web (parts.2.2 ++ rest)⟩ := by
  have map_bind {α β γ : Type} (f : β → γ) (read : Except Fault α) (next : α → Except Fault β) :
      (read >>= next).map f = read >>= fun value => (next value).map f := by
    cases read <;> rfl
  have map_ok {α β : Type} (f : α → β) (value : α) :
      (.ok value : Except Fault α).map f = .ok (f value) := rfl
  have map_error {α β : Type} (f : α → β) (fault : Fault) :
      (.error fault : Except Fault α).map f = .error fault := rfl
  have throw_bind {α β : Type} (fault : Fault) (next : α → Except Fault β) :
      (throw fault : Except Fault α) >>= next = .error fault := rfl
  have refuse_bind {α : Type} (missing : Bool) (next : Unit → Except Fault α) :
      refuseIf missing >>= next = if missing then .error .emptyHost else next () := by
    cases missing <;> rfl
  have ite_bind {α β : Type} (condition : Prop) [Decidable condition] (a b : Except Fault α)
      (next : α → Except Fault β) :
      (if condition then a else b) >>= next = if condition then a >>= next else b >>= next := by
    split <;> rfl
  unfold ofAuthority authorityParts
  dsimp only
  simp only [apply_ite (Except.map _), map_bind, map_ok, map_error, throw_bind, refuse_bind,
    ite_bind]
  rfl

theorem splitUser_snd_subset (authority : List Char) : (splitUser authority).2 ⊆ authority := by
  unfold splitUser
  split
  · intro c member
    simpa using List.takeWhile_subset _ (List.mem_reverse.1 member)
  · exact List.Subset.refl _

/-- Only an at sign has nothing on both sides. -/
theorem eq_of_splitUser {authority : List Char} (split : splitUser authority = (some [], [])) :
    authority = ['@'] := by
  unfold splitUser at split
  by_cases user : authority.contains '@' = true
  · rw [if_pos user] at split
    obtain ⟨front, back⟩ := Prod.mk.inj split
    rw [back] at front
    have short : authority.length ≤ 1 := by
      have nothing := List.take_eq_nil_iff.1 (Option.some.inj front)
      rcases nothing with few | rfl
      · simp only [List.length_nil] at few
        omega
      · simp
    match authority, short with
    | [], _ => simp at user
    | [c], _ => simpa [eq_comm] using user
  · rw [if_neg user] at split
    simp at split

theorem splitHost_append (bracketed : Bool) (text : List Char) :
    (splitHost bracketed text).1 ++ (splitHost bracketed text).2 = text := by
  induction text generalizing bracketed with
  | nil => rfl
  | cons c rest ih =>
    rw [splitHost]
    split
    · rfl
    · exact congrArg (c :: ·) (ih _)

theorem port?_subset {usual : Option Nat} {text : List Char} {port : Option Nat}
    {behind : List Char} (read : port? usual text = .ok (port, behind)) : behind ⊆ text := by
  unfold port? at read
  split at read
  · next digits =>
    dsimp only at read
    split at read
    · simp at read
    · obtain ⟨-, rfl⟩ := Prod.mk.inj (Except.ok.inj read)
      exact List.Subset.trans (List.dropWhile_subset _) (List.subset_cons_self _ _)
  · obtain ⟨-, rfl⟩ := Prod.mk.inj (Except.ok.inj read)
    exact List.Subset.refl _

theorem behind_subset {scheme authority : List Char} {parts : Option Host × Option Nat × List Char}
    (read : authorityParts scheme authority = .ok parts) : parts.2.2 ⊆ authority := by
  have ofPlace := splitUser_snd_subset authority
  have ofPort : (splitHost false (splitUser authority).2).2 ⊆ (splitUser authority).2 := by
    conv => rhs; rw [← splitHost_append false (splitUser authority).2]
    exact List.subset_append_right _ _
  unfold authorityParts at read
  simp only [bind_eq_ok] at read
  obtain ⟨_, _, _, _, _, _, ⟨_, behind⟩, port, _, _, same⟩ := read
  obtain rfl := Except.ok.inj same
  exact List.Subset.trans (List.Subset.trans (port?_subset port) ofPort) ofPlace

/-- A web address needs a host. -/
theorem place_ne_nil {scheme authority : List Char} {parts : Option Host × Option Nat × List Char}
    (web : SchemeKind.ofScheme scheme = .web)
    (read : authorityParts scheme authority = .ok parts) : (splitUser authority).2 ≠ [] := by
  intro empty
  unfold authorityParts at read
  simp only [bind_eq_ok, empty, web] at read
  obtain ⟨_, refused, _⟩ := read
  simp [refuseIf, splitHost] at refused

theorem ofAuthority_nil {scheme : List Char} (web : SchemeKind.ofScheme scheme = .web) (url : Url) :
    ofAuthority scheme [] ≠ .ok url := by
  intro read
  rw [ofAuthority_eq] at read
  obtain ⟨-, -, mapped⟩ := bind_eq_ok.1 read
  cases parts : authorityParts scheme [] with
  | error fault => simp [parts, Except.map] at mapped
  | ok found => exact place_ne_nil web parts rfl

section Plain

variable {segments : List (List Char)}
  (plain : ∀ segment ∈ segments, IsPlain segment ∧ segment ≠ [])

include plain

/-- An address with an authority goes on, unless the authority is an at sign. -/
theorem exists_continues_ofAuthority {scheme text : List Char} (unmarked : IsUnmarked text)
    (noSign : SchemeKind.ofScheme scheme = .web ∨ text ≠ ['@']) {count : Nat} {old : Url}
    (read : ofAuthority scheme (text ++ List.replicate count '/') = .ok old) :
    ∃ new, ofAuthority scheme (text ++ '/' :: joinWith ['/'] segments) = .ok new ∧
      Continues segments old new := by
  obtain ⟨authority, rest, whole, parted⟩ :=
    exists_authority (SchemeKind.ofScheme scheme = .web) text
  obtain ⟨oldFront, oldRest⟩ := parted _ (startsWithSlash_replicate count)
  obtain ⟨newFront, newRest⟩ := parted _ (startsWithSlash_cons (joinWith ['/'] segments))
  rw [ofAuthority_eq] at read ⊢
  simp only [oldFront, oldRest, newFront, newRest, bind_eq_ok] at read ⊢
  obtain ⟨⟨⟩, accepted, mapped⟩ := read
  cases parts : authorityParts scheme authority with
  | error fault => simp [parts, Except.map] at mapped
  | ok found =>
    rw [parts] at mapped
    obtain rfl := Except.ok.inj mapped
    have someone : splitUser authority ≠ (some [], []) := by
      intro split
      rcases noSign with web | noSign
      · exact place_ne_nil web parts (by rw [split])
      · have last : rest = [] := by
          by_contra some
          simp [split, refuseIf, some] at accepted
        rw [last, eq_of_splitUser split, List.append_nil] at whole
        exact noSign whole.symm
    have admitted : (decide ((splitUser authority).1 = some []) &&
        (splitUser authority).2.isEmpty) = false := by
      by_contra both
      simp only [Bool.not_eq_false, Bool.and_eq_true, decide_eq_true_eq, List.isEmpty_iff] at both
      exact someone (Prod.ext both.1 both.2)
    have behind : IsUnmarked (found.2.2 ++ rest) := by
      refine (unmarked.of_subset ?_).append (unmarked.of_subset ?_)
      · exact List.Subset.trans (behind_subset parts)
          (whole ▸ List.subset_append_left authority rest)
      · exact whole ▸ List.subset_append_right authority rest
    refine ⟨_, ⟨(), by rw [admitted]; rfl, rfl⟩, rfl, rfl, rfl, ?_⟩
    simpa only [List.append_assoc] using goesOn_pathSegments plain _ behind count

end Plain

section Plain

variable {segments : List (List Char)}
  (plain : ∀ segment ∈ segments, IsPlain segment ∧ segment ≠ [])

include plain

theorem exists_continues_ofFileHost {text : List Char} (unmarked : IsUnmarked text) {count : Nat}
    {old : Url} (read : ofFileHost (text ++ List.replicate count '/') = .ok old) :
    ∃ new, ofFileHost (text ++ '/' :: joinWith ['/'] segments) = .ok new ∧
      Continues segments old new := by
  obtain ⟨hostText, rest, whole, parted⟩ := exists_authority true text
  obtain ⟨oldFront, oldRest⟩ := parted _ (startsWithSlash_replicate count)
  obtain ⟨newFront, newRest⟩ := parted _ (startsWithSlash_cons (joinWith ['/'] segments))
  have behind : IsUnmarked rest :=
    unmarked.of_subset (whole ▸ List.subset_append_right hostText rest)
  have ownFile := (continues_localFile plain unmarked count).1
  have file := (continues_localFile plain behind count).2
  unfold ofFileHost at read ⊢
  simp only [oldFront, oldRest, newFront, newRest, file.path.any_isDriveLetter] at read ⊢
  by_cases drive : Path.isDriveLetter hostText = true
  · rw [if_pos drive] at read ⊢
    obtain rfl := Except.ok.inj read
    exact ⟨_, rfl, ownFile⟩
  rw [if_neg drive] at read ⊢
  by_cases empty : hostText.isEmpty = true
  · rw [if_pos empty] at read ⊢
    obtain rfl := Except.ok.inj read
    exact ⟨_, rfl, file⟩
  rw [if_neg empty] at read ⊢
  obtain ⟨host, domain, read⟩ := bind_eq_ok.1 read
  simp only [bind_eq_ok, domain]
  by_cases here : (decide (host = .name "localhost".toList) ||
      (localFile (dropSlash true (rest ++ List.replicate count '/'))).segments.head?.any
        Path.isDriveLetter) = true
  · rw [if_pos here] at read
    obtain rfl := Except.ok.inj read
    exact ⟨_, ⟨host, rfl, if_pos here⟩, file⟩
  · rw [if_neg here] at read
    obtain rfl := Except.ok.inj read
    exact ⟨_, ⟨host, rfl, if_neg here⟩, file.scheme, rfl, file.port, file.path⟩

theorem isSlash_head?_joinWith :
    ∀ c ∈ (joinWith ['/'] segments).head?, isSlash true c = false := by
  cases segments with
  | nil => simp [joinWith]
  | cons segment rest =>
    obtain ⟨⟨isPlain, nonempty⟩, -⟩ := List.forall_mem_cons.1 plain
    obtain ⟨c, others, rfl⟩ := List.exists_cons_of_ne_nil nonempty
    have slash : c ≠ '/' := fun same => isPlain.not_mem (c := '/') (by simp) (by simp [same])
    have backslash : c ≠ '\\' := fun same =>
      isPlain.not_mem (c := '\\') (by simp) (by simp [same])
    have first : (joinWith ['/'] ((c :: others) :: rest)).head? = Option.some c := by
      cases rest <;> simp [joinWith]
    simp [first, isSlash, slash, backslash]

/-- New segments behind one slash are a path on this machine. -/
theorem ofFile_slash : ofFile ('/' :: joinWith ['/'] segments) =
    .ok (localFile (dropSlash true ('/' :: joinWith ['/'] segments))) := by
  have first := isSlash_head?_joinWith plain
  cases joined : joinWith ['/'] segments with
  | nil => rfl
  | cons c rest =>
    rw [joined] at first
    simp [ofFile, first c rfl]

/-- The address of a file goes on, unless one slash or backslash is all that follows the colon. -/
theorem exists_continues_ofFile {text : List Char} (unmarked : IsUnmarked text)
    (more : ¬ (text = ['/'] ∨ text = ['\\'])) {count : Nat} {old : Url}
    (read : ofFile (text ++ List.replicate count '/') = .ok old) :
    ∃ new, ofFile (text ++ '/' :: joinWith ['/'] segments) = .ok new ∧
      Continues segments old new := by
  match text with
  | a :: b :: rest =>
    simp only [List.cons_append, ofFile] at read ⊢
    by_cases slashes : (isSlash true a && isSlash true b) = true
    · rw [if_pos slashes] at read ⊢
      exact exists_continues_ofFileHost plain
        (unmarked.of_subset fun c member => by simp [member]) read
    · rw [if_neg slashes] at read ⊢
      obtain rfl := Except.ok.inj read
      exact ⟨_, rfl, (continues_localFile plain unmarked count).2⟩
  | [a] =>
    have noSlash : isSlash true a = false := by
      rw [← Bool.not_eq_true]
      intro slash
      simp only [isSlash, Bool.true_and, Bool.or_eq_true, beq_iff_eq] at slash
      exact more (slash.imp (congrArg fun c => [c]) (congrArg fun c => [c]))
    have isLocal (tail : List Char) :
        ofFile (a :: tail) = .ok (localFile (dropSlash true (a :: tail))) := by
      cases tail <;> simp [ofFile, noSlash]
    rw [List.singleton_append, isLocal] at read
    rw [List.singleton_append, isLocal]
    obtain rfl := Except.ok.inj read
    exact ⟨_, rfl, (continues_localFile plain unmarked count).2⟩
  | [] =>
    have file := (continues_localFile plain unmarked count).2
    rw [List.nil_append, ofFile_slash plain]
    refine ⟨_, rfl, ?_⟩
    match count with
    | 0 | 1 =>
      obtain rfl := Except.ok.inj read
      exact file
    | count + 2 =>
      have host : ofFileHost ([] ++ List.replicate count '/') = .ok old := read
      obtain ⟨new, found, continues⟩ := exists_continues_ofFileHost plain unmarked host
      obtain rfl := Except.ok.inj found
      exact continues

end Plain

/-- No authority names no host. -/
theorem ofAuthority_slash {scheme : List Char} (other : SchemeKind.ofScheme scheme ≠ .web)
    (rest : List Char) : ofAuthority scheme ('/' :: rest) =
      .ok ⟨scheme, none, none, pathSegments false ('/' :: rest)⟩ := by
  have slash : endsAuthority false '/' = true := rfl
  rw [ofAuthority_eq]
  simp [other, slash, authorityParts, splitUser, splitHost, refuseIf, Host.ofName, port?, bind,
    Except.bind, Except.map, Percent.encode]

section Plain

variable {segments : List (List Char)}
  (plain : ∀ segment ∈ segments, IsPlain segment ∧ segment ≠ [])

include plain

/-- New segments behind one slash are a path without a host. -/
theorem ofOther_slash (scheme : List Char) : ofOther scheme ('/' :: joinWith ['/'] segments) =
    .ok ⟨scheme, none, none, Path.ofText false (joinWith ['/'] segments)⟩ := by
  have first := isSlash_head?_joinWith plain
  have unmarked := isUnmarked_joinWith plain
  cases joined : joinWith ['/'] segments with
  | nil => rfl
  | cons c rest =>
    rw [joined] at first unmarked
    have noSlash : c ≠ '/' := fun same => by simpa [isSlash, same] using first c rfl
    unfold ofOther
    split
    · next same => simp_all
    · next same =>
      obtain rfl := (List.cons.inj same).2
      rw [unmarked.beforeQuery]
    · next same => exact absurd rfl (same _)

/-- An address of any other scheme goes on if a slash follows the colon or nothing does, unless the
slash is all, or an empty host with an empty user. -/
theorem exists_continues_ofOther {scheme text : List Char}
    (other : SchemeKind.ofScheme scheme ≠ .web) (unmarked : IsUnmarked text)
    (slash : StartsWithSlash text) (more : text ≠ ['/']) (noSign : text ≠ "//@".toList)
    {count : Nat} {old : Url} (read : ofOther scheme (text ++ List.replicate count '/') = .ok old) :
    ∃ new, ofOther scheme (text ++ '/' :: joinWith ['/'] segments) = .ok new ∧
      Continues segments old new := by
  match text with
  | a :: b :: rest =>
    obtain rfl : a = '/' := slash a rfl
    by_cases second : b = '/'
    · subst second
      have noSign : rest ≠ ['@'] := fun same => noSign (by simp [same])
      exact exists_continues_ofAuthority plain
        (unmarked.of_subset fun c member => by simp [member]) (.inr noSign) read
    · have isPath (tail : List Char) : ofOther scheme ('/' :: b :: rest ++ tail) =
          .ok ⟨scheme, none, none, Path.ofText false (beforeQuery (b :: rest ++ tail))⟩ := by
        simp [ofOther, second]
      have behind : IsUnmarked (b :: rest) := unmarked.of_subset (List.subset_cons_self _ _)
      obtain ⟨oldPath, newPath⟩ := isUnmarked_tails plain behind count
      rw [isPath, oldPath.beforeQuery] at read
      rw [isPath, newPath.beforeQuery]
      obtain rfl := Except.ok.inj read
      exact ⟨_, rfl, rfl, rfl, rfl, goesOn_ofText plain false (b :: rest) count⟩
  | [a] =>
    obtain rfl : a = '/' := slash a rfl
    exact absurd rfl more
  | [] =>
    rw [List.nil_append, ofOther_slash plain]
    refine ⟨_, rfl, ?_⟩
    match count with
    | 0 =>
      obtain rfl := Except.ok.inj read
      exact ⟨rfl, rfl, rfl, Path.goesOn_nil plain false⟩
    | 1 =>
      obtain rfl := Except.ok.inj read
      exact ⟨rfl, rfl, rfl, Path.goesOn_ofText_slashes plain false 0⟩
    | count + 2 =>
      have noHost : ofAuthority scheme ([] ++ List.replicate count '/') = .ok old := read
      obtain ⟨new, found, continues⟩ :=
        exists_continues_ofAuthority plain unmarked (.inr (by simp)) noHost
      rw [List.nil_append, ofAuthority_slash other] at found
      obtain rfl := Except.ok.inj found
      have path : pathSegments false ('/' :: joinWith ['/'] segments) =
          Path.ofText false (joinWith ['/'] segments) := by
        have tail := (isUnmarked_tails plain unmarked 0).2
        rw [pathSegments, ← List.nil_append ('/' :: joinWith ['/'] segments), tail.beforeQuery]
        rfl
      rwa [path] at continues

end Plain

/-! ## Addresses -/

/-- Read what follows a scheme and its colon. -/
def ofScheme (scheme text : List Char) : Except Fault Url :=
  match SchemeKind.ofScheme scheme with
  | .file => ofFile text
  | .web => ofAuthority scheme (text.dropWhile (isSlash true))
  | .other => ofOther scheme text

/-- What follows a scheme, up to a slash at its end, leads to segments behind that slash. -/
def LeadsOn (scheme behind : List Char) : Prop :=
  (SchemeKind.ofScheme scheme = .file → behind ≠ "//".toList ∧ behind ≠ "\\/".toList) ∧
    (SchemeKind.ofScheme scheme = .other →
      behind.head? = some '/' ∧ behind ≠ "//".toList ∧ behind ≠ "//@/".toList)

instance (scheme behind : List Char) : Decidable (LeadsOn scheme behind) :=
  inferInstanceAs (Decidable (_ ∧ _))

section Plain

variable {segments : List (List Char)}
  (plain : ∀ segment ∈ segments, IsPlain segment ∧ segment ≠ [])

include plain

/-- What follows a scheme goes on behind a slash. -/
theorem exists_continues_ofScheme {scheme text : List Char} (unmarked : IsUnmarked text)
    (leadsOn : LeadsOn scheme (text ++ ['/'])) {count : Nat} {old : Url}
    (read : ofScheme scheme (text ++ List.replicate count '/') = .ok old) :
    ∃ new, ofScheme scheme (text ++ '/' :: joinWith ['/'] segments) = .ok new ∧
      Continues segments old new := by
  unfold ofScheme at read ⊢
  cases kind : SchemeKind.ofScheme scheme with
  | file =>
    obtain ⟨noSlash, noBackslash⟩ := leadsOn.1 kind
    simp only [kind] at read ⊢
    refine exists_continues_ofFile plain unmarked ?_ read
    rintro (rfl | rfl)
    · exact noSlash rfl
    · exact noBackslash rfl
  | web =>
    simp only [kind, List.dropWhile_append] at read ⊢
    by_cases empty : (text.dropWhile (isSlash true)).isEmpty = true
    · have nothing : (List.replicate count '/').dropWhile (isSlash true) = [] :=
        List.dropWhile_eq_nil_iff.2 fun c member => List.eq_of_mem_replicate member ▸ rfl
      rw [if_pos empty, nothing] at read
      exact absurd read (ofAuthority_nil kind old)
    · rw [if_neg empty] at read ⊢
      exact exists_continues_ofAuthority plain
        (unmarked.of_subset (List.dropWhile_subset _)) (.inl kind) read
  | other =>
    obtain ⟨first, more, noSign⟩ := leadsOn.2 kind
    simp only [kind] at read ⊢
    have slash : StartsWithSlash text := by
      cases text with
      | nil => simp [StartsWithSlash]
      | cons c rest => simpa [StartsWithSlash] using first
    refine exists_continues_ofOther plain (by simp [kind]) unmarked slash ?_ ?_ read
    · rintro rfl
      exact more rfl
    · rintro rfl
      exact noSign rfl

end Plain

end Url
end SchemaScaffold
