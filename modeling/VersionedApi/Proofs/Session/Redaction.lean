import VersionedApi.Session.Event
import VersionedApi.Session.Auth

/-!
# What is shown of secrets

A sensitive value is redacted by taking its octets away; its mark and its place stay.  Whatever is
shown of headers and requests is shown of their redacted forms: `shown_redacted`,
`curl_redacted` and `ofRequest_redacted`.  So two requests with one redacted form are logged in
one way.  Putting a value in place of others commutes with redaction (`redacted_insert`).
-/

namespace VersionedApi

namespace HeaderValue

/-- The value without its octets, if it is sensitive. -/
def redacted (v : HeaderValue) : HeaderValue :=
  if v.sensitive then { v with bytes := [] } else v

theorem redacted_of_sensitive {v : HeaderValue} (h : v.sensitive = true) :
    v.redacted = ⟨[], true⟩ := by
  rw [redacted, if_pos h, h]

theorem redacted_of_not_sensitive {v : HeaderValue} (h : v.sensitive = false) :
    v.redacted = v := by
  rw [redacted, h]
  rfl

theorem shown_redacted (v : HeaderValue) : v.redacted.shown = v.shown := by
  cases h : v.sensitive with
  | false => rw [redacted_of_not_sensitive h]
  | true =>
      rw [redacted_of_sensitive h, shown, shown, h]
      rfl

/-- A text that is no value is refused in one way. -/
theorem ofText?_eq_error {s : String} {fault : HeaderFault} (h : ofText? s = .error fault) :
    fault = .value := by
  rw [ofText?, ofBytes?] at h
  split at h
  next => cases h
  next => cases h; rfl

end HeaderValue

namespace HeaderMap

/-- The headers with every value redacted. -/
def redacted (h : HeaderMap) : HeaderMap :=
  ⟨h.groups.map fun (name, vs) => (name, vs.map HeaderValue.redacted)⟩

theorem contains_redacted (h : HeaderMap) (name : HeaderName) :
    h.redacted.contains name = h.contains name := by
  rw [contains, contains, redacted, List.any_map]
  rfl

theorem toList_redacted (h : HeaderMap) :
    h.redacted.toList = h.toList.map fun (name, v) => (name, v.redacted) := by
  simp only [toList, redacted, List.flatMap_map, List.map_flatMap, List.map_map, Function.comp_def]

theorem shown_redacted (h : HeaderMap) : h.redacted.shown = h.shown := by
  simp only [shown, toList_redacted, List.map_map, Function.comp_def, HeaderValue.shown_redacted]

/-- What a change puts in place of values is redacted as they are. -/
theorem map_update (name : HeaderName) (value : HeaderValue) :
    ∀ groups : List (HeaderName × List HeaderValue),
      (update name (fun _ => [value]) groups).map
          (fun (name, vs) => (name, vs.map HeaderValue.redacted)) =
        update name (fun _ => [value.redacted])
          (groups.map fun (name, vs) => (name, vs.map HeaderValue.redacted))
  | [] => rfl
  | (n, vs) :: rest => by
      rw [update, List.map_cons, update]
      split
      next => rfl
      next => rw [List.map_cons, map_update name value rest]

theorem redacted_insert (h : HeaderMap) (name : HeaderName) (value : HeaderValue) :
    (h.insert name value).redacted = h.redacted.insert name value.redacted := by
  rw [insert, redacted, map_update, insert, redacted]

end HeaderMap

namespace Request

/-- The request with its headers redacted. -/
def redacted (r : Request) : Request := { r with headers := r.headers.redacted }

theorem headerArgument_redacted (name : HeaderName) (v : HeaderValue) :
    headerArgument name v.redacted = headerArgument name v := by
  cases h : v.sensitive with
  | false => rw [HeaderValue.redacted_of_not_sensitive h]
  | true =>
      rw [HeaderValue.redacted_of_sensitive h, headerArgument, headerArgument, h]
      rfl

theorem curl_redacted (r : Request) : r.redacted.curl = r.curl := by
  simp only [curl, redacted, HeaderMap.toList_redacted, List.map_map, Function.comp_def,
    headerArgument_redacted]
  rfl

end Request

/-- A request is logged as its redacted form is. -/
theorem Event.ofRequest_redacted (r : Request) : ofRequest r.redacted = ofRequest r := by
  rw [ofRequest, ofRequest, Request.curl_redacted]
  rfl

/-- The options with their headers redacted. -/
def RequestOptions.redacted (o : RequestOptions) : RequestOptions :=
  { o with headers := o.headers.redacted }

/-- Two responses that differ at most in the octets of sensitive values.  The location and the
type are what the session itself reads of the headers, so these are the same. -/
structure Response.Alike (r₁ r₂ : Response) : Prop where
  /-- The status. -/
  status : r₁.status = r₂.status
  /-- The headers without the octets of sensitive values. -/
  headers : r₁.headers.redacted = r₂.headers.redacted
  /-- The URL that sent the reply. -/
  url : r₁.url = r₂.url
  /-- The body. -/
  body : r₁.body = r₂.body
  /-- The place to which the reply redirects. -/
  location : r₁.location? = r₂.location?
  /-- The encoding that the type names. -/
  encoding : r₁.encoding? = r₂.encoding?

namespace Response.Alike

theorem refl (r : Response) : r.Alike r := ⟨rfl, rfl, rfl, rfl, rfl, rfl⟩

theorem ofResponse_eq {r₁ r₂ : Response} (h : r₁.Alike r₂) :
    Event.ofResponse r₁ = Event.ofResponse r₂ := by
  have hshown : r₁.headers.shown = r₂.headers.shown := by
    rw [← HeaderMap.shown_redacted, h.headers, HeaderMap.shown_redacted]
  have htext : r₁.bufferText? = r₂.bufferText? := by
    rw [bufferText?, bufferText?, buffer?, buffer?, h.body]
  rw [Event.ofResponse, Event.ofResponse, h.status, hshown, htext, h.encoding]

end Response.Alike

end VersionedApi
