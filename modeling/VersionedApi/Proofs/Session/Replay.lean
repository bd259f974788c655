import Mathlib.Control.Monad.Basic
import VersionedApi.Proofs.Text.ShellWords
import VersionedApi.Session.Request
import VersionedApi.Url.Parser

/-!
# Requests replayed

The command line that shows a request is meant to be pasted into a shell.  The shell cuts it into
the arguments that repeat the request, unless one of them holds a single quote
(`curl_words_iff`): texts are put between single quotes as they are.
-/

namespace VersionedApi

open Text.ShellWords

namespace Request

/-- The argument of a header. -/
def headerWord (name : HeaderName) (value : HeaderValue) : String :=
  name.text ++ ": " ++ if value.sensitive then "***" else Utf8.lossy value.bytes

/-- The command that repeats a request, with its arguments. -/
def words (r : Request) : List String :=
  ["curl", "-i", "-X", r.method, r.url.render] ++
    (if r.verify = .disabled then ["--insecure"] else []) ++
    r.headers.toList.flatMap fun (name, value) => ["-H", headerWord name value]

/-- The arguments of the command line of a request, as it puts them together. -/
def arguments (r : Request) : List (List Argument) :=
  [[Argument.bare "curl".toList, Argument.bare "-i".toList],
      [Argument.bare "-X".toList, Argument.quoted r.method.toList],
      [Argument.quoted r.url.render.toList]] ++
    (if r.verify = .disabled then [[Argument.bare "--insecure".toList]] else []) ++
    r.headers.toList.map fun (name, value) =>
      [Argument.bare "-H".toList, Argument.quoted (headerWord name value).toList]

/-- No part of the command line is empty, and the shell does nothing to what is not quoted. -/
theorem safe_arguments (r : Request) :
    ∀ part ∈ r.arguments, part ≠ [] ∧ ∀ a ∈ part, a.Safe := by
  intro part hpart
  simp only [arguments, List.mem_append, List.mem_cons, List.not_mem_nil, or_false,
    List.mem_map] at hpart
  rcases hpart with ((rfl | rfl | rfl) | hpart) | ⟨line, _, rfl⟩
  · simp [Argument.Safe, isPlain, isSeparator]
  · simp [Argument.Safe, isPlain, isSeparator]
  · simp [Argument.Safe]
  · split at hpart
    next =>
      obtain rfl := List.mem_singleton.mp hpart
      simp [Argument.Safe, isPlain, isSeparator]
    next => cases hpart
  · simp [Argument.Safe, isPlain, isSeparator]

theorem line_header (name : HeaderName) (value : HeaderValue) :
    (headerArgument name value).toList =
      line [.bare "-H".toList, .quoted (headerWord name value).toList] := by
  simp [headerArgument, headerWord, line, Argument.written, List.intercalate_cons_cons]

theorem line_arguments (r : Request) : r.curl.toList = line r.arguments.flatten := by
  rw [← line_flatten fun part hpart => (r.safe_arguments part hpart).1, curl,
    String.toList_intercalate, arguments]
  congr 1
  rw [List.map_append, List.map_append, List.map_append, List.map_append]
  congr 1
  · congr 1
    · simp [line, Argument.written, List.intercalate_cons_cons]
    · cases r.verify <;> rfl
  · rw [List.map_map, List.map_map]
    exact List.map_congr_left fun line _ => line_header line.1 line.2

theorem text_arguments (r : Request) :
    r.arguments.flatten.map Argument.text = r.words.map String.toList := by
  rw [arguments, words, List.flatten_append, List.flatten_append, List.map_append, List.map_append,
    List.map_append, List.map_append]
  congr 1
  · congr 1
    split <;> rfl
  · rw [← List.flatMap_def, List.map_flatMap, List.map_flatMap]
    rfl

/-- A shell cuts the command line of a request into the words that repeat it if and only if no
single quote is in the method, the URL or a header. -/
theorem curl_words_iff (r : Request) :
    ofLine r.curl = some r.words ↔ ∀ text ∈ r.words, '\'' ∉ text.toList := by
  have hsafe : ∀ a ∈ r.arguments.flatten, a.Safe := by
    intro a ha
    obtain ⟨part, hpart, ha⟩ := List.mem_flatten.mp ha
    exact (r.safe_arguments part hpart).2 a ha
  rw [ofLine_eq_some_iff, line_arguments, ← text_arguments, scan_line_iff hsafe]
  rw [← List.forall_mem_map (P := fun text => '\'' ∉ text), text_arguments, List.forall_mem_map]

/-- Single quotes in the path of a URL are lost: the command asks another URL. -/
theorem curl_words_quotes :
    let url : Url :=
      ⟨"http", some { host := some (.name "example.com") }, .rooted ["users('x')"], none, none⟩
    let r : Request :=
      { method := "GET", url, headers := .empty, body := none, verify := .enabled, timeout := none
        stream := false }
    Url.parse "http://example.com/users('x')" = .ok url ∧
      r.words = ["curl", "-i", "-X", "GET", "http://example.com/users('x')"] ∧
      ofLine r.curl = some ["curl", "-i", "-X", "GET", "http://example.com/users(x)"] ∧
      ofLine r.curl ≠ some r.words := by
  intro url r
  have hurl : Url.parse "http://example.com/users('x')" = .ok url := by decide +kernel
  have hwords : r.words = ["curl", "-i", "-X", "GET", "http://example.com/users('x')"] := by
    decide +kernel
  have hcurl : r.curl = "curl -i -X 'GET' 'http://example.com/users('x')'" := by decide +kernel
  have hline : ofLine r.curl =
      some ["curl", "-i", "-X", "GET", "http://example.com/users(x)"] := by
    rw [hcurl, ofLine_eq_some_iff]
    simp [scan, push, isSeparator]
  refine ⟨hurl, hwords, hline, ?_⟩
  rw [hline, hwords]
  decide

end Request

end VersionedApi
