import SchemaScaffold.Artifact.Postman
import SchemaScaffold.Proofs.Sql.Script
import SchemaScaffold.Proofs.Text.Pieces
import SchemaScaffold.Proofs.Url.Cleaning

/-!
# Addresses of requests

A request gives its address as a text and in parts. The parts are those of the text if the address
of the backend can go on behind a slash; then the text is read, and its path leads to the segments
of the request.
-/

namespace SchemaScaffold
namespace Postman

open Sql (IsWord)
open Text (joinWith splitOn)
open Url (EndsVisibly IsUnmarked LeadsOn clean cleanFront scheme?)
open Url.Path (IsPlain)

/-- The parts of a request's address are those of an address. -/
structure HasParts (request : RequestUrl) (url : Url) : Prop where
  protocol : request.protocol.toList = url.scheme
  host : request.host.map String.toList = url.host.elim [] fun host => splitOn '.' host.text
  port : request.port.map String.toList = url.port.map Text.decimal
  path : request.path.map String.toList = url.segments.filter (!·.isEmpty)

/-- The text of a request's address is read as an address with the same parts. -/
def Agrees (request : RequestUrl) : Prop :=
  ∃ url, Url.parse request.raw = .ok url ∧ HasParts request url

instance (request : RequestUrl) (url : Url) : Decidable (HasParts request url) :=
  decidable_of_iff (request.protocol.toList = url.scheme ∧
      request.host.map String.toList = url.host.elim [] (fun host => splitOn '.' host.text) ∧
      request.port.map String.toList = url.port.map Text.decimal ∧
      request.path.map String.toList = url.segments.filter (!·.isEmpty))
    ⟨fun ⟨protocol, host, port, path⟩ => ⟨protocol, host, port, path⟩,
      fun ⟨protocol, host, port, path⟩ => ⟨protocol, host, port, path⟩⟩

instance (request : RequestUrl) : Decidable (Agrees request) :=
  match read : Url.parse request.raw with
  | .ok url => decidable_of_iff (HasParts request url) (by simp [Agrees, read])
  | .error _ => .isFalse (by simp [Agrees, read])

/-- A text without the slashes at its end. -/
def dropSlashes (text : List Char) : List Char :=
  (text.reverse.dropWhile (· == '/')).reverse

/-- An address can go on behind a slash. -/
structure TakesSegments (text : String) : Prop where
  visible : EndsVisibly text.toList
  unmarked : IsUnmarked text.toList
  leadsOn : ∀ pair ∈ scheme? (clean (dropSlashes text.toList ++ ['/'])), LeadsOn pair.1 pair.2

instance (text : String) : Decidable (TakesSegments text) :=
  decidable_of_iff (EndsVisibly text.toList ∧ ('?' ∉ text.toList ∧ '#' ∉ text.toList) ∧
      ∀ pair ∈ scheme? (clean (dropSlashes text.toList ++ ['/'])), LeadsOn pair.1 pair.2)
    ⟨fun ⟨visible, unmarked, leadsOn⟩ => ⟨visible, unmarked, leadsOn⟩,
      fun takes => ⟨takes.visible, takes.unmarked, takes.leadsOn⟩⟩

theorem exists_dropSlashes (text : List Char) :
    ∃ count, text = dropSlashes text ++ List.replicate count '/' := by
  have slashes : text.reverse.takeWhile (· == '/') =
      List.replicate (text.reverse.takeWhile (· == '/')).length '/' :=
    List.eq_replicate_of_mem fun c member => by simpa using List.mem_takeWhile_imp member
  refine ⟨(text.reverse.takeWhile (· == '/')).length, ?_⟩
  have whole := congrArg List.reverse
    (List.takeWhile_append_dropWhile (p := (· == '/')) (l := text.reverse))
  rw [List.reverse_append, List.reverse_reverse, slashes, List.reverse_replicate] at whole
  exact whole.symm

theorem isPlain_of_isWord {word : String} (isWord : IsWord word) :
    IsPlain word.toList ∧ word.toList ≠ [] := by
  refine ⟨fun c member => ?_, isWord.toList_ne_nil⟩
  have plain : (c.isAlphanum || c == '_') = true →
      Url.Path.keeps c = true ∧ c ∉ ['/', '\\', '%', '.', ':', '|'] :=
    forall_nameChar (fun c => (c.isAlphanum || c == '_') = true →
      Url.Path.keeps c = true ∧ c ∉ ['/', '\\', '%', '.', ':', '|'])
      (by decide) (by decide) (by decide) c (isWord.nameChar c member)
  exact plain (by simpa using isWord.2 c member)

/-- The address of the backend in the form in which requests extend it. -/
theorem exists_of_baseUrl {text : String} {base : RequestUrl} (accepted : baseUrl text = .ok base) :
    ∃ url, Url.parse text = .ok url ∧ HasParts base url ∧
      base.raw.toList = dropSlashes text.toList := by
  unfold baseUrl at accepted
  cases read : Url.parse text with
  | error fault => simp [read, Except.map] at accepted
  | ok url =>
    rw [read] at accepted
    obtain rfl := Except.ok.inj accepted
    obtain ⟨scheme, host, port, segments⟩ := url
    refine ⟨_, rfl, ⟨?_, ?_, ?_, ?_⟩, ?_⟩
    · exact String.toList_ofList
    · cases host <;> simp [Function.comp_def]
    · cases port <;> simp
    · simp [Function.comp_def]
    · exact String.toList_ofList

theorem toList_raw_append (base : RequestUrl) (segments : List String) :
    (base.append segments).raw.toList =
      base.raw.toList ++ '/' :: joinWith ['/'] (segments.map String.toList) := by
  rw [Text.joinWith_eq_intercalate]
  simp [RequestUrl.append, String.join_cons, String.toList_intercalate]

/-- A request agrees with its address if the address of the backend takes segments: it has no query
and no fragment, no blanks at its end but tabs and line breaks, and behind its scheme a slash, or
nothing at all, leads to a path. -/
theorem requests_agree {text : String} {base : RequestUrl} (accepted : baseUrl text = .ok base)
    (takes : TakesSegments text) {segments : List String}
    (words : ∀ segment ∈ segments, IsWord segment) : Agrees (base.append segments) := by
  obtain ⟨url, read, parts, raw⟩ := exists_of_baseUrl accepted
  obtain ⟨count, whole⟩ := exists_dropSlashes text.toList
  have plain : ∀ segment ∈ segments.map String.toList, IsPlain segment ∧ segment ≠ [] :=
    List.forall_mem_map.2 fun segment member => isPlain_of_isWord (words segment member)
  have unmarked : IsUnmarked (dropSlashes text.toList) := by
    refine takes.unmarked.of_subset fun c member => ?_
    rw [whole]
    exact List.mem_append_left _ member
  have given : text = String.ofList (dropSlashes text.toList ++ List.replicate count '/') := by
    rw [← whole, String.ofList_toList]
  rw [given] at read
  obtain ⟨next, found, continues⟩ := Url.exists_continues_parse plain (whole ▸ takes.visible)
    unmarked takes.leadsOn read
  refine ⟨next, ?_, ?_⟩
  · rw [← found, ← raw, ← toList_raw_append, String.ofList_toList]
  · refine ⟨?_, ?_, ?_, ?_⟩
    · exact parts.protocol.trans continues.scheme.symm
    · exact parts.host.trans (by rw [continues.host])
    · exact parts.port.trans (by rw [continues.port])
    · rw [continues.path.filter, ← parts.path]
      exact List.map_append

/-- An address with the usual port of its scheme, a letter in upper case, dots and slashes. -/
def dottedAddress : String :=
  "https://API.example.com:443/v1/../v2//"

/-- The address in the form in which requests extend it. -/
def dottedBase : RequestUrl :=
  ⟨"https://API.example.com:443/v1/../v2", "https", ["api", "example", "com"], none, ["v2"]⟩

/-- Requests below the address agree with it. -/
theorem dotted_requests_agree : baseUrl dottedAddress = .ok dottedBase ∧
    TakesSegments dottedAddress ∧ (∀ segment ∈ ["users", "1"], IsWord segment) ∧
    Agrees (dottedBase.append ["users", "1"]) := by
  have accepted : baseUrl dottedAddress = .ok dottedBase := by decide +kernel
  have takes : TakesSegments dottedAddress := by decide
  have words : ∀ segment ∈ ["users", "1"], IsWord segment := by decide
  exact ⟨accepted, takes, words, requests_agree accepted takes words⟩

/-- Requests disagree below addresses with a query, with a fragment or with a blank at the end,
below one that has no path, and where the slash in front of a table makes its name a host or parts
an empty host from its path. An empty segment is none in the text. -/
theorem requests_disagree :
    (∀ text ∈ ["http://h/a?b=1", "http://h/a#b", "http://h/a ", "mailto:x", "foo:/\t/", "foo://@",
        "file:\\"], ∃ base ∈ (baseUrl text).toOption, ¬ Agrees (base.append ["t"])) ∧
      ∃ base ∈ (baseUrl "http://h").toOption, ¬ Agrees (base.append [""]) := by
  decide +kernel

end Postman
end SchemaScaffold
