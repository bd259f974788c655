import VersionedApi.Session.Transport
import VersionedApi.Proofs.Session.Course

/-!
# Bodies left unread

A request may leave the body of its reply unread.  A run whose requests do so is in lockstep with
the run whose requests do not: it sends the same requests, and each of its responses is that of the
other with the body unread (`Flight.run_streamed`).  What is sent next depends on the status and on
the headers of a reply, so nothing on the way asks for a body.

Once it is read, an unread body is what is in memory otherwise.  This takes a network whose replies
can be read to the end (`Network.Whole`): a reply that is cut short is an error where its body is
read with it, and a response where it is not.
-/

namespace VersionedApi

/-! ## Requests and responses -/

/-- The request that leaves the body of its reply unread. -/
def Request.streamed (q : Request) : Request := { q with stream := true }

/-- A body that is still to be read. -/
def Body.unread : Body → Body
  | .buffered bytes => .streaming bytes none
  | .streaming bytes fault => .streaming bytes fault

namespace Response

/-- A response whose body is still to be read. -/
def unread (r : Response) : Response := { r with body := r.body.unread }

/-- A response whose body is still to be read, and so are those of its redirects. -/
def allUnread (r : Response) : Response := { r.unread with history := r.history.map unread }

/-- A response whose body is known to be `octets` gives them in every way of reading it. -/
structure Yields (r : Response) (octets : Bytes) : Prop where
  /-- As they are. -/
  bytes : r.bytes = .ok octets
  /-- As a text. -/
  text : r.text = .ok (Utf8.lossy octets)
  /-- As a JSON document, unless they are none. -/
  json : r.json = (Json.parse octets).mapError fun cause => .json (.malformed cause)
  /-- Read to the end. -/
  reader : r.reader.toEnd = .ok octets

/-- The first response is the second one with its body unread, and nothing else tells them apart. -/
structure Defers (streamed buffered : Response) : Prop where
  /-- The status is the same. -/
  status : streamed.status = buffered.status
  /-- The headers are the same. -/
  headers : streamed.headers = buffered.headers
  /-- The URL is the same. -/
  url : streamed.url = buffered.url
  /-- The redirects are the same, but for their bodies. -/
  history : streamed.history.map (fun r => (r.status, r.headers, r.url)) =
    buffered.history.map fun r => (r.status, r.headers, r.url)
  /-- Reading gives the same. -/
  yields : ∃ octets, buffered.buffer? = some octets ∧ buffered.Yields octets ∧
    streamed.Yields octets
  /-- One body is in memory. -/
  inMemory : buffered.isBuffered = true
  /-- The other one is not. -/
  notInMemory : streamed.isBuffered = false ∧ streamed.buffer? = none ∧ streamed.bufferText? = none

variable {r : Response}

/-- Whatever is read of a body comes out of its reader. -/
theorem toEnd_reader (r : Response) : r.reader.toEnd = r.bytes := by
  rw [reader, bytes]
  cases r.body with
  | buffered bytes => rfl
  | streaming bytes fault => cases fault <;> rfl

theorem Yields.of_bytes {octets : Bytes} (h : r.bytes = .ok octets) : r.Yields octets where
  bytes := h
  text := by rw [Response.text, h]; rfl
  json := by rw [Response.json, h]; rfl
  reader := by rw [toEnd_reader, h]

/-- An unread body is read as it would have been. -/
theorem bytes_allUnread (r : Response) : r.allUnread.bytes = r.bytes := by
  rw [bytes, bytes, allUnread, unread]
  cases r.body <;> rfl

theorem buffer?_allUnread (r : Response) : r.allUnread.buffer? = none := by
  rw [buffer?, allUnread, unread]
  cases r.body <;> rfl

theorem isBuffered_allUnread (r : Response) : r.allUnread.isBuffered = false := by
  rw [isBuffered, allUnread, unread]
  cases r.body <;> rfl

theorem exists_of_isBuffered (h : r.isBuffered = true) :
    ∃ octets, r.buffer? = some octets ∧ r.bytes = .ok octets := by
  rw [isBuffered] at h
  rw [buffer?, bytes]
  cases hbody : r.body with
  | buffered octets => exact ⟨octets, rfl, rfl⟩
  | streaming octets fault =>
      rw [hbody] at h
      cases h

theorem defers_allUnread (h : r.isBuffered = true) : r.allUnread.Defers r := by
  obtain ⟨octets, hbuffer, hbytes⟩ := exists_of_isBuffered h
  have hunread : r.allUnread.bytes = .ok octets := (bytes_allUnread r).trans hbytes
  have hnone := buffer?_allUnread r
  exact {
    status := rfl
    headers := rfl
    url := rfl
    history := List.map_map
    yields := ⟨octets, hbuffer, .of_bytes hbytes, .of_bytes hunread⟩
    inMemory := h
    notInMemory := ⟨isBuffered_allUnread r, hnone, by rw [bufferText?, hnone]; rfl⟩ }

end Response

/-! ## The client of a network -/

/-- A client leaves a body unread if the request says so, and does nothing else about it. -/
def Client.Streams (client : Client) : Prop :=
  ∀ requests, client (requests.map Request.streamed) = (client requests).map Response.unread

/-- A delivery that is no reply cut short. -/
def Delivery.IsWhole : Delivery → Prop
  | .reply _ _ _ fault => fault = none
  | .hangUp => True
  | .unreachable => True

namespace Network

variable {n : Network}

/-- Every reply can be read to its end. -/
def Whole (n : Network) : Prop := ∀ requests, (n.answer requests).IsWhole

theorem dispatch_streamed (n : Network) (q : Request) : n.dispatch q.streamed = n.dispatch q := rfl

theorem dispatched_streamed (n : Network) (requests : List Request) :
    n.dispatched (requests.map Request.streamed) = n.dispatched requests := by
  rw [dispatched, List.filterMap_map]
  rfl

theorem body_streamed (q : Request) (status : Nat) (bytes : Bytes) :
    body q.streamed status bytes none = (body q status bytes none).map Body.unread := by
  have hmethod : q.streamed.method = q.method := rfl
  rw [body, body, hmethod]
  cases isBodiless q.method status <;> cases q.stream <;> rfl

theorem receive_streamed (q : Request) {d : Delivery} (h : d.IsWhole) :
    receive q.streamed d = (receive q d).map Response.unread := by
  cases d with
  | hangUp => rfl
  | unreachable => rfl
  | reply status headers bytes fault =>
      obtain rfl : fault = none := h
      rw [receive, receive, body_streamed]
      cases body q status bytes none <;> rfl

theorem client_streams (hn : n.Whole) : n.client.Streams := by
  intro requests
  rw [client, client, List.getLast?_map]
  cases requests.getLast? with
  | none => rfl
  | some q =>
      rw [Option.map_some]
      dsimp only
      rw [dispatch_streamed, dispatched_streamed]
      cases n.dispatch q with
      | error e => rfl
      | ok d => exact receive_streamed q (hn _)

section

variable {q : Request} (hq : q.stream = false)

include hq

/-- A body is read into memory unless the request says otherwise. -/
theorem exists_buffered_of_body {status : Nat} {bytes : Bytes} {fault : Option String} {b : Body}
    (h : body q status bytes fault = .ok b) : ∃ octets, b = .buffered octets := by
  rw [body, hq] at h
  split at h
  · exact ⟨[], (Except.ok.inj h).symm⟩
  · cases fault with
    | some fault => cases h
    | none => exact ⟨bytes, (Except.ok.inj h).symm⟩

theorem isBuffered_of_receive {d : Delivery} {r : Response} (h : receive q d = .ok r) :
    r.isBuffered = true := by
  cases d with
  | hangUp => cases h
  | unreachable => cases h
  | reply status headers bytes fault =>
      obtain ⟨b, hb, rfl⟩ := Outcome.map_eq_ok_iff.mp h
      obtain ⟨octets, rfl⟩ := exists_buffered_of_body hq hb
      rfl

theorem isBuffered_of_client {before : List Request} {r : Response}
    (h : n.client (before ++ [q]) = .ok r) : r.isBuffered = true := by
  rw [client, List.getLast?_concat] at h
  dsimp only at h
  cases hdispatch : n.dispatch q with
  | error e =>
      rw [hdispatch] at h
      cases h
  | ok d =>
      rw [hdispatch] at h
      exact isBuffered_of_receive hq h

end

end Network

/-! ## Runs in lockstep -/

namespace Flight

/-- The flight of a request that leaves bodies unread. -/
def streamed (f : Flight) : Flight where
  request := f.request.streamed
  budget := f.budget
  history := f.history.map Response.unread

/-- Where a flight that leaves bodies unread lands. -/
def Landing.streamed : Landing → Landing
  | .final => .final
  | .stranded reason => .stranded reason
  | .onward next => .onward next.streamed

theorem redirected_streamed (f : Flight) (r : Response) (budget : RedirectPolicy) (url : Url) :
    (f.redirected r budget url).streamed = f.streamed.redirected r.unread budget url := by
  have hhistory : (f.history ++ [r]).map Response.unread = f.streamed.history ++ [r.unread] :=
    List.map_append
  rw [streamed, redirected, redirected, hhistory]
  rfl

/-- Whether a flight goes on, and where to, does not depend on any body. -/
theorem receive_streamed (f : Flight) (r : Response) :
    f.streamed.receive r.unread = (f.receive r).streamed := by
  have hredirect : r.unread.isRedirect = r.isRedirect := rfl
  have hbudget : f.streamed.budget = f.budget := rfl
  have htarget : target f.streamed.request.url r.unread = target f.request.url r := rfl
  rw [receive, receive, hredirect, hbudget, htarget]
  cases r.isRedirect with
  | false => rfl
  | true =>
      cases f.budget.takeHop with
      | none => rfl
      | some budget =>
          cases target f.request.url r with
          | error reason => rfl
          | ok url => exact congrArg Landing.onward (redirected_streamed f r budget url).symm

section

variable {client : Client} {span : Span} {steps : Nat} {before : List Request} {f : Flight}

/-- The run that leaves bodies unread sends the requests of the other run and comes to its outcome
with the bodies unread. -/
theorem run_streamed (hclient : client.Streams) :
    (run client span steps (before.map Request.streamed) f.streamed).sent =
        (run client span steps before f).sent.map Request.streamed ∧
      (run client span steps (before.map Request.streamed) f.streamed).outcome =
        (run client span steps before f).outcome.map (·.map Response.allUnread) := by
  induction steps generalizing before f with
  | zero => exact ⟨rfl, rfl⟩
  | succ steps ih =>
      -- The answers are one but for the body, so the two flights land alike.
      have hanswer : client (before.map Request.streamed ++ [f.streamed.request]) =
          (client (before ++ [f.request])).map Response.unread := by
        rw [← hclient, List.map_append]
        rfl
      cases hr : client (before ++ [f.request]) with
      | error e =>
          rw [hr] at hanswer
          rw [run_of_error hr, run_of_error hanswer]
          exact ⟨rfl, rfl⟩
      | ok r =>
          rw [hr] at hanswer
          have hland := receive_streamed f r
          cases hreceive : f.receive r with
          | final =>
              rw [hreceive] at hland
              rw [run_of_final hr hreceive, run_of_final hanswer hland]
              exact ⟨rfl, rfl⟩
          | stranded reason =>
              rw [hreceive] at hland
              rw [run_of_stranded hr hreceive, run_of_stranded hanswer hland]
              exact ⟨rfl, rfl⟩
          | onward next =>
              rw [hreceive] at hland
              obtain ⟨hsent, houtcome⟩ := @ih (before ++ [f.request]) next
              rw [List.map_append] at hsent houtcome
              rw [run_of_onward hr hreceive, run_of_onward hanswer hland]
              exact ⟨congrArg (f.streamed.request :: ·) hsent, houtcome⟩

/-- Every request of a run leaves bodies unread or reads them as the first one does. -/
theorem stream_of_sent {q : Request} (h : q ∈ (run client span steps before f).sent) :
    q.stream = f.request.stream := by
  rw [sent_eq_map_course] at h
  obtain ⟨g, hg, rfl⟩ := List.mem_map.mp h
  obtain ⟨k, hk⟩ := List.mem_iff_getElem?.mp hg
  rw [request_of_course hk]

/-- A run that reads bodies ends with one in memory. -/
theorem isBuffered_of_run {n : Network} {r : Response} (hf : f.request.stream = false)
    (h : (run n.client span steps before f).outcome = some (.ok r)) : r.isBuffered = true := by
  induction steps generalizing before f with
  | zero => cases h
  | succ steps ih =>
      by_cases hhop : ∃ next, Hop n.client before f next
      · obtain ⟨next, hnext⟩ := hhop
        rw [(run_of_hop hnext).2] at h
        have hstream : next.request.stream = f.request.stream := by rw [hnext.request_eq]
        exact ih (hstream.trans hf) h
      · rw [(run_of_stop (not_exists.mp hhop)).2] at h
        obtain ⟨r', hr', rfl⟩ := Outcome.map_eq_ok_iff.mp (Option.some.inj h)
        -- Delivery puts in the history and leaves the body alone.
        change r'.isBuffered = true
        exact Network.isBuffered_of_client hf hr'

end

end Flight

/-! ## A call -/

namespace Session

theorem prepare_streamed (s : Session) (method url : String) (o : RequestOptions) :
    s.prepare method url { o with stream := true } =
      (s.prepare method url { o with stream := false }).map Flight.streamed := by
  cases hprepare : s.prepare method url { o with stream := false } with
  | error e =>
      have hcause := prepare_eq_error_iff.mp hprepare
      exact prepare_eq_error_iff.mpr hcause
  | ok f =>
      obtain ⟨named, headers, target, hnamed, hheaders, htarget, rfl⟩ :=
        prepare_eq_ok_iff.mp hprepare
      exact prepare_eq_ok_iff.mpr ⟨named, headers, target, hnamed, hheaders, htarget, rfl⟩

/-- A call that leaves bodies unread and one that reads them send the same requests, and come to
the same error or to responses that only the place of the body tells apart: once it is read, it is
the same. -/
theorem request_streamed (s : Session) (n : Network) (hn : n.Whole) (steps : Nat)
    (method url : String) (o : RequestOptions) :
    let call (stream : Bool) := s.request n.client steps method url { o with stream }
    (call true).sent = (call false).sent.map Request.streamed ∧
      (∀ q ∈ (call false).sent, q.stream = false) ∧
      Option.Rel (Outcome.Alike Response.Defers) (call true).outcome (call false).outcome := by
  intro call
  have hstreamed := prepare_streamed s method url o
  cases hprepare : s.prepare method url { o with stream := false } with
  | error e =>
      rw [hprepare] at hstreamed
      have hcall : call false = .done (.error e) := request_of_error hprepare
      have hcall' : call true = .done (.error e) := request_of_error hstreamed
      rw [hcall, hcall']
      exact ⟨rfl, fun _ hq => (nomatch hq), .some (.error e)⟩
  | ok f =>
      rw [hprepare] at hstreamed
      have hcall : call false = f.run n.client s.span steps [] := request_of_ok hprepare
      have hcall' : call true = f.streamed.run n.client s.span steps [] := request_of_ok hstreamed
      have hf : f.request.stream = false := by
        obtain ⟨_, _, _, _, _, _, rfl⟩ := prepare_eq_ok_iff.mp hprepare
        rfl
      obtain ⟨hsent, houtcome⟩ :=
        @Flight.run_streamed n.client s.span steps [] f (Network.client_streams hn)
      rw [hcall, hcall']
      refine ⟨hsent, fun q hq => (Flight.stream_of_sent hq).trans hf, ?_⟩
      rw [List.map_nil] at houtcome
      rw [houtcome]
      cases hended : (f.run n.client s.span steps []).outcome with
      | none => exact .none
      | some outcome =>
          cases outcome with
          | error e => exact .some (.error e)
          | ok r =>
              have hbuffered : r.isBuffered = true := Flight.isBuffered_of_run hf hended
              exact .some (.ok (Response.defers_allUnread hbuffered))

/-- A redirect with a body that leads to an encrypted connection, and a reply with one: the streamed
call asks for neither, and the other one has read both. -/
theorem request_streamed_redirected :
    let url (scheme segment : String) : Url :=
      ⟨scheme, some { host := some (.name "a") }, .rooted [segment], none, none⟩
    let location : HeaderMap := .ofList [(.location, { bytes := Utf8.encode "https://a/b" })]
    let n : Network :=
      { files := fun _ => .error "none"
        answer := fun
          | [_] => .reply 302 location [109] none
          | [_, _] => .reply 200 .empty [104, 105] none
          | _ => .hangUp }
    let s : Session := ⟨Credentials.none.authorize, none, .standard, .enabled⟩
    let call (stream : Bool) := s.request n.client 5 "GET" "http://a/" { stream }
    let hop (body : Body) : Response := ⟨302, location, url "http" "", body, []⟩
    let last (body : Body) (history : List Response) : Response :=
      ⟨200, .empty, url "https" "b", body, history⟩
    n.Whole ∧
      (call false).outcome =
        some (.ok (last (.buffered [104, 105]) [hop (.buffered [109])])) ∧
      (call true).sent = (call false).sent.map Request.streamed ∧
      ∃ streamed, (call true).outcome = some (.ok streamed) ∧
        streamed.Defers (last (.buffered [104, 105]) [hop (.buffered [109])]) := by
  intro url location n s call hop last
  have hwhole : n.Whole := by
    intro requests
    match requests with
    | [] => trivial
    | [_] => rfl
    | [_, _] => rfl
    | _ :: _ :: _ :: _ => trivial
  let first : Request := ⟨"GET", url "http" "", .empty, none, .enabled, none, false⟩
  let start : Flight := ⟨first, .limit 30, []⟩
  let next : Flight := start.redirected (hop (.buffered [109])) (.limit 29) (url "https" "b")
  have hprepare : s.prepare "GET" "http://a/" {} = .ok start :=
    prepare_eq_ok_iff.mpr ⟨.empty, .empty, url "http" "", rfl, rfl, by decide +kernel, rfl⟩
  have htarget : Flight.target (url "http" "") (hop (.buffered [109])) = .ok (url "https" "b") := by
    decide +kernel
  have hfirst : n.client [start.request] = .ok (hop (.buffered [109])) := rfl
  have hsecond : n.client [start.request, next.request] = .ok (last (.buffered [104, 105]) []) :=
    rfl
  have hland : start.receive (hop (.buffered [109])) = .onward next :=
    Flight.receive_eq_onward_iff.mpr ⟨rfl, _, _, rfl, htarget, rfl⟩
  have houtcome : (call false).outcome =
      some (.ok (last (.buffered [104, 105]) [hop (.buffered [109])])) :=
    calc (call false).outcome
      _ = (Flight.run n.client s.span 5 [] start).outcome :=
          congrArg Trace.outcome (request_of_ok hprepare)
      _ = (Flight.run n.client s.span 4 [start.request] next).outcome :=
          (Flight.run_of_hop ⟨_, hfirst, hland⟩).2
      _ = some (.ok (next.deliver (last (.buffered [104, 105]) []))) :=
          congrArg Trace.outcome (Flight.run_of_final hsecond rfl)
  obtain ⟨hsent, -, hrelated⟩ := request_streamed s n hwhole 5 "GET" "http://a/" {}
  refine ⟨hwhole, houtcome, hsent, ?_⟩
  change Option.Rel _ (call true).outcome (call false).outcome at hrelated
  rw [houtcome] at hrelated
  generalize (call true).outcome = outcome at hrelated ⊢
  cases hrelated with
  | some hrelated =>
      cases hrelated with
      | ok hdefers => exact ⟨_, rfl, hdefers⟩

end Session

end VersionedApi
