import VersionedApi.Url.Parser
import VersionedApi.Proofs.Outcome
import VersionedApi.Proofs.Url.Host

/-!
# Authorities read back

An authority of a special scheme is settled if its user name and its password are encoded, its host
is settled and its port is not the default one.  Every authority that was read is settled
(`settled_parseAuthority`), and a settled one is read back from its text (`parseAuthority_render`).
-/

namespace VersionedApi.Url

open VersionedApi.Text

open Percent (Encoded)

/-- An authority that its text stands for under a special scheme. -/
structure Authority.Settled (scheme : String) (a : Authority) : Prop where
  /-- Nothing in the user name has to be encoded. -/
  username : Encoded Percent.userinfoSet a.username.toList
  /-- A password is not empty, and nothing in it has to be encoded. -/
  password : ∀ p, a.password = some p → p.toList ≠ [] ∧ Encoded Percent.userinfoSet p.toList
  /-- There is a host. -/
  host : ∃ h, a.host = some h ∧ h.Settled
  /-- The port is not the one of the scheme. -/
  port : ∀ p, a.port = some p → defaultPort? scheme ≠ some p

/-! ## Parts of an authority -/

/-- The user information and the rest of an authority. -/
def cutUserinfo (cs : List Char) : List Char × List Char := (cutLast? '@' cs).getD ([], cs)

/-- The port of the text behind a colon, if there is a colon. -/
def readPort (scheme : String) : Option (List Char) → Except UrlFault (Option UInt16)
  | some digits => parsePort scheme digits
  | none => .ok none

/-- A special scheme takes a host in any case. -/
theorem parseHost_eq_ok_iff {cs : List Char} {host : Option Host} :
    parseHost .special cs = .ok host ↔
      cs ≠ [] ∧ ∃ h, Host.parseSpecial cs = .ok h ∧ host = some h := by
  rw [parseHost]
  · cases cs with
    | nil => exact ⟨fun h => (nomatch h), fun h => absurd rfl h.1⟩
    | cons c cs =>
        refine Outcome.map_eq_ok_iff.trans ⟨?_, ?_⟩
        · rintro ⟨h, hparse, rfl⟩
          exact ⟨List.cons_ne_nil c cs, h, hparse, rfl⟩
        · rintro ⟨_, h, hparse, rfl⟩
          exact ⟨h, hparse, rfl⟩
  · exact fun h => nomatch h

/-- The authority of user information and the texts of a host and a port. -/
def Authority.build (scheme : String) (names : String × Option String)
    (text : List Char × Option (List Char)) : Except UrlFault Authority := do
  let host ← parseHost (schemeKind scheme) text.1
  if host.isNone && text.2.isSome then throw .emptyHost
  let port ← readPort scheme text.2
  if host.isNone && (names.1 ≠ "" || names.2.isSome) then throw .emptyHost
  pure { username := names.1, password := names.2, host, port }

theorem Authority.build_eq_ok_iff {scheme : String} (hkind : schemeKind scheme = .special)
    {names : String × Option String} {text : List Char × Option (List Char)} {a : Authority} :
    Authority.build scheme names text = .ok a ↔
      ∃ host port, text.1 ≠ [] ∧ Host.parseSpecial text.1 = .ok host ∧
        readPort scheme text.2 = .ok port ∧ a = ⟨names.1, names.2, some host, port⟩ := by
  rw [Authority.build, hkind]
  constructor
  · intro h
    obtain ⟨host?, hhost, h⟩ := Outcome.bind_eq_ok_iff.mp h
    obtain ⟨hne, host, hparse, rfl⟩ := parseHost_eq_ok_iff.mp hhost
    obtain ⟨port, hport, h⟩ := Outcome.bind_eq_ok_iff.mp h
    cases h
    exact ⟨host, port, hne, hparse, hport, rfl⟩
  · rintro ⟨host, port, hne, hparse, hport, rfl⟩
    exact Outcome.bind_eq_ok_iff.mpr ⟨some host, parseHost_eq_ok_iff.mpr ⟨hne, host, hparse, rfl⟩,
      Outcome.bind_eq_ok_iff.mpr ⟨port, hport, rfl⟩⟩

theorem parseAuthority_eq (scheme : String) (cs : List Char) (followed : Bool) :
    parseAuthority scheme cs followed =
      if decide (cs = ['@']) && followed then .error .emptyHost
      else Authority.build scheme (parseUserinfo (cutUserinfo cs).1)
        (splitPort false (cutUserinfo cs).2) := by
  have hport (names : String × Option String) (text : List Char × Option (List Char)) :
      Authority.build scheme names text = (do
        let host ← parseHost (schemeKind scheme) text.1
        if host.isNone && text.2.isSome then throw .emptyHost
        let port ← match text.2 with
          | some digits => parsePort scheme digits
          | none => pure none
        if host.isNone && (names.1 ≠ "" || names.2.isSome) then throw .emptyHost
        pure { username := names.1, password := names.2, host, port }) := by
    obtain ⟨hostText, portText⟩ := text
    cases portText <;> rfl
  rw [hport, parseAuthority, cutUserinfo]
  by_cases hcs : (decide (cs = ['@']) && followed) = true
  · rw [hcs]
    cases cutLast? '@' cs <;> rfl
  · rw [eq_false_of_ne_true hcs]
    cases cutLast? '@' cs <;> rfl

/-- What an authority of a special scheme is read from. -/
theorem parseAuthority_eq_ok_iff {scheme : String} (hkind : schemeKind scheme = .special)
    {cs : List Char} {followed : Bool} {a : Authority} :
    parseAuthority scheme cs followed = .ok a ↔
      ∃ host port, (splitPort false (cutUserinfo cs).2).1 ≠ [] ∧
        Host.parseSpecial (splitPort false (cutUserinfo cs).2).1 = .ok host ∧
        readPort scheme (splitPort false (cutUserinfo cs).2).2 = .ok port ∧
        a = ⟨(parseUserinfo (cutUserinfo cs).1).1, (parseUserinfo (cutUserinfo cs).1).2, some host,
          port⟩ := by
  rw [parseAuthority_eq]
  split
  next hat =>
    rw [Bool.and_eq_true, decide_eq_true_eq] at hat
    have hnil : (splitPort false (cutUserinfo cs).2).1 = [] := by
      rw [hat.1]
      rfl
    constructor
    · exact fun h => nomatch h
    · rintro ⟨_, _, hne, _⟩
      exact absurd hnil hne
  next => exact Authority.build_eq_ok_iff hkind

/-! ## Reading -/

theorem encoded_userinfo (cs : List Char) :
    Encoded Percent.userinfoSet
      (String.ofList (Percent.encode Percent.userinfoSet cs)).toList := by
  rw [String.toList_ofList]
  exact Percent.encoded_encode Percent.admits_userinfoSet cs

theorem encoded_parseUserinfo (cs : List Char) :
    Encoded Percent.userinfoSet (parseUserinfo cs).1.toList ∧
      ∀ p, (parseUserinfo cs).2 = some p → p.toList ≠ [] ∧ Encoded Percent.userinfoSet p.toList := by
  rw [parseUserinfo]
  split
  next => exact ⟨encoded_userinfo _, fun p h => nomatch h⟩
  next name password hne _ =>
    refine ⟨encoded_userinfo _, fun p h => ?_⟩
    cases h
    refine ⟨?_, encoded_userinfo _⟩
    rw [String.toList_ofList, Ne, Percent.encode_eq_nil_iff]
    exact hne
  next => exact ⟨encoded_userinfo _, fun p h => nomatch h⟩

theorem readPort_ne_default {scheme : String} {text : Option (List Char)} {p : UInt16}
    (h : readPort scheme text = .ok (some p)) : defaultPort? scheme ≠ some p := by
  cases text with
  | none => cases h
  | some digits =>
      rw [readPort, parsePort] at h
      split at h
      next => cases h
      next =>
        split at h
        next => cases h
        next hdefault =>
          cases h
          rw [Bool.or_eq_true, decide_eq_true_eq, not_or] at hdefault
          exact hdefault.2

/-- Every authority that is read is settled. -/
theorem settled_parseAuthority {scheme : String} (hkind : schemeKind scheme = .special)
    {cs : List Char} {followed : Bool} {a : Authority}
    (h : parseAuthority scheme cs followed = .ok a) : a.Settled scheme := by
  obtain ⟨host, port, _, hhost, hport, rfl⟩ := (parseAuthority_eq_ok_iff hkind).mp h
  obtain ⟨husername, hpassword⟩ := encoded_parseUserinfo (cutUserinfo cs).1
  refine ⟨husername, hpassword, ⟨host, rfl, Host.settled_parseSpecial hhost⟩, fun p hp => ?_⟩
  have hp : port = some p := hp
  exact readPort_ne_default (hp ▸ hport)

/-! ## Reading back -/

theorem splitPort_plain : ∀ {cs : List Char}, (∀ c ∈ cs, c ≠ ':' ∧ c ≠ '[') → ∀ rest : List Char,
    splitPort false (cs ++ rest) = (cs ++ (splitPort false rest).1, (splitPort false rest).2)
  | [], _, rest => rfl
  | c :: cs, h, rest => by
      obtain ⟨⟨hcolon, hbracket⟩, hcs⟩ := List.forall_mem_cons.mp h
      have hplain : (c == ':' && !false) = false := by
        rw [beq_eq_false_iff_ne.mpr hcolon]
        rfl
      have hinside : (if c == '[' then true else if c == ']' then false else false) = false := by
        rw [beq_eq_false_iff_ne.mpr hbracket]
        exact ite_self false
      rw [List.cons_append, splitPort, hplain]
      dsimp only
      rw [hinside, splitPort_plain hcs rest]
      rfl

/-- What stands in brackets is of the host. -/
theorem splitPort_inside : ∀ {cs : List Char}, (∀ c ∈ cs, c ≠ ']') → ∀ rest : List Char,
    splitPort true (cs ++ ']' :: rest) =
      (cs ++ ']' :: (splitPort false rest).1, (splitPort false rest).2)
  | [], _, rest => rfl
  | c :: cs, h, rest => by
      obtain ⟨hbracket, hcs⟩ := List.forall_mem_cons.mp h
      have hplain : (c == ':' && !true) = false := Bool.and_false _
      have hinside : (if c == '[' then true else if c == ']' then false else true) = true := by
        rw [beq_eq_false_iff_ne.mpr hbracket]
        exact ite_self true
      rw [List.cons_append, splitPort, hplain]
      dsimp only
      rw [hinside, splitPort_inside hcs rest]
      rfl

theorem splitPort_render {host : Host} (h : host.Settled) (rest : List Char) :
    splitPort false (host.render.toList ++ rest) =
      (host.render.toList ++ (splitPort false rest).1, (splitPort false rest).2) := by
  by_cases hplain : ∀ ps, host ≠ .ipv6 ps
  · refine splitPort_plain (fun c hc => ?_) rest
    have hallowed := Host.not_forbidden_render h hplain c hc
    constructor
    · rintro rfl
      exact absurd hallowed (by decide)
    · rintro rfl
      exact absurd hallowed (by decide)
  · rw [Classical.not_forall] at hplain
    obtain ⟨pieces, hpieces⟩ := hplain
    have hbracket : ∀ c ∈ Ipv6.render pieces, c ≠ ']' := by
      rintro c hc rfl
      rcases Ipv6.mem_render hc with hc | hc
      · exact absurd hc (by decide)
      · exact absurd hc (by decide)
    rw [Classical.not_not.mp hpieces, Host.render, String.toList_ofList, List.cons_append,
      List.cons_append, List.append_assoc, List.singleton_append]
    have hinside := splitPort_inside hbracket rest
    rw [splitPort]
    dsimp only
    rw [if_neg (by decide), if_pos (by decide), hinside]
    dsimp only
    rw [List.cons_append, List.append_assoc, List.singleton_append]

theorem parsePort_decimal {scheme : String} {p : UInt16} (h : defaultPort? scheme ≠ some p) :
    parsePort scheme (decimal p.toNat) = .ok (some p) := by
  have hsize : p.toNat < 65536 := p.toNat_lt
  have hdigits : (decimal p.toNat).all isDigit = true :=
    List.all_eq_true.mpr fun c hc => isDigit_of_mem_decimal hc
  have hne : (decimal p.toNat).isEmpty = false := by
    rw [List.isEmpty_eq_false_iff]
    exact decimal_ne_nil _
  have hvalue : UInt16.ofNat (decimalValue (decimal p.toNat)) = p := by
    rw [decimalValue_decimal, UInt16.ofNat_toNat]
  rw [parsePort, hvalue, hdigits, hne, if_neg, if_neg]
  · rw [Bool.false_or, decide_eq_true_eq]
    exact h
  · rw [decimalValue_decimal, Bool.not_true, Bool.false_or, decide_eq_true_eq]
    omega

/-- The text of user information before its at sign. -/
def Authority.names (a : Authority) : List Char :=
  match a.password with
  | some password => a.username.toList ++ ':' :: password.toList
  | none => a.username.toList

/-- The text of a port behind a host. -/
def Authority.portText (a : Authority) : List Char :=
  match a.port with
  | some port => ':' :: decimal port.toNat
  | none => []

theorem Authority.toList_render {a : Authority} {host : Host} (h : a.host = some host) :
    a.render.toList =
      (if a.names = [] then [] else a.names ++ ['@']) ++ (host.render.toList ++ a.portText) := by
  have huserinfo : a.userinfo.toList = if a.names = [] then [] else a.names ++ ['@'] := by
    rw [userinfo, names]
    cases a.password with
    | some password =>
        rw [if_neg (List.append_ne_nil_of_right_ne_nil _ (List.cons_ne_nil _ _))]
        dsimp only
        rw [String.toList_append, String.toList_append, String.toList_append]
        simp only [List.append_assoc]
        rfl
    | none =>
        dsimp only
        by_cases hname : a.username = ""
        · rw [if_pos hname, hname, String.toList_empty, if_pos rfl]
        · rw [if_neg hname, if_neg fun hnil => hname (String.toList_eq_nil_iff.mp hnil),
            String.toList_append]
          rfl
  rw [render, h, String.toList_append, String.toList_append, huserinfo, List.append_assoc]
  congr 2
  rw [portText]
  cases a.port with
  | none => rfl
  | some port =>
      dsimp only
      rw [String.toList_append, String.toList_ofList (l := decimal port.toNat)]
      rfl

section

variable {scheme : String} {a : Authority} {host : Host}

theorem Authority.inner_portText (a : Authority) : ∀ c ∈ a.portText, Host.Inner c := by
  have hdigits : ∀ d < 10, Host.Inner (Nat.digitChar d) := by decide
  intro c hc
  rw [portText] at hc
  split at hc
  next port _ =>
    rcases List.mem_cons.mp hc with rfl | hc
    · decide
    · obtain ⟨d, hd, rfl⟩ := mem_toDigits (by decide) port.toNat c hc
      exact hdigits d hd
  next => cases hc

theorem at_notMem {cs : List Char} (h : ∀ c ∈ cs, Host.Inner c) : '@' ∉ cs := by
  intro hmem
  exact absurd (h '@' hmem) (by decide)

theorem cutUserinfo_render (hhost : a.host = some host) (h : host.Settled) :
    cutUserinfo a.render.toList = (a.names, host.render.toList ++ a.portText) := by
  have hat : '@' ∉ host.render.toList ++ a.portText := by
    refine at_notMem fun c hc => ?_
    rcases List.mem_append.mp hc with hc | hc
    · exact Host.inner_render h c hc
    · exact a.inner_portText c hc
  rw [Authority.toList_render hhost, cutUserinfo]
  split
  next hnames =>
    rw [List.nil_append, cutLast?_eq_none hat, hnames]
    rfl
  next =>
    rw [List.append_assoc, List.singleton_append, cutLast?_append hat]
    rfl

theorem parseUserinfo_names (ha : a.Settled scheme) :
    parseUserinfo a.names = (a.username, a.password) := by
  have hcolon : ':' ∉ a.username.toList := by
    intro hmem
    exact absurd (ha.username ':' hmem).2 (by decide)
  have husername : String.ofList (Percent.encode Percent.userinfoSet a.username.toList) =
      a.username := by
    rw [Percent.encode_of_encoded ha.username, String.ofList_toList]
  rw [Authority.names]
  cases hp : a.password with
  | none =>
      dsimp only
      rw [parseUserinfo, cut?_eq_none hcolon]
      dsimp only
      rw [husername]
  | some password =>
      obtain ⟨hne, hencoded⟩ := ha.password password hp
      have hpassword : String.ofList (Percent.encode Percent.userinfoSet password.toList) =
          password := by
        rw [Percent.encode_of_encoded hencoded, String.ofList_toList]
      dsimp only
      rw [parseUserinfo, cut?_append hcolon]
      generalize password.toList = cs at *
      cases cs with
      | nil => exact absurd rfl hne
      | cons c cs =>
          dsimp only
          rw [husername, hpassword]

theorem splitPort_hostText (h : host.Settled) (a : Authority) :
    splitPort false (host.render.toList ++ a.portText) =
      (host.render.toList, a.port.map fun port => decimal port.toNat) := by
  rw [splitPort_render h, Authority.portText]
  cases a.port with
  | none =>
      rw [splitPort, List.append_nil]
      rfl
  | some port =>
      have hcolon : (':' == ':' && !false) = true := rfl
      rw [splitPort, if_pos hcolon, List.append_nil]
      rfl

/-- A settled authority is read back from its text. -/
theorem parseAuthority_render (hkind : schemeKind scheme = .special) (ha : a.Settled scheme)
    (followed : Bool) : parseAuthority scheme a.render.toList followed = .ok a := by
  obtain ⟨host, hhost, h⟩ := ha.host
  refine (parseAuthority_eq_ok_iff hkind).mpr ⟨host, a.port, ?_⟩
  rw [cutUserinfo_render hhost h]
  dsimp only
  rw [splitPort_hostText h, parseUserinfo_names ha]
  refine ⟨Host.toList_render_ne_nil h, Host.parseSpecial_render h, ?_, ?_⟩
  · cases hport : a.port with
    | none => rfl
    | some port => exact parsePort_decimal (ha.port port hport)
  · obtain ⟨username, password, host', port⟩ := a
    rw [show host' = some host from hhost]

/-! ## The characters of an authority -/

theorem inner_of_encoded {cs : List Char} (h : Encoded Percent.userinfoSet cs) :
    ∀ c ∈ cs, Host.Inner c := by
  have hends : ∀ d ∈ "#/?@\\".toList, Percent.userinfoSet d = true :=
    List.all_eq_true.mp (by decide)
  exact fun c hc => ⟨h.visible (by decide) c hc, fun hmem => h.notMem (hends c hmem) hc⟩

/-- The text of a settled authority holds nothing that ends it, and is not empty. -/
theorem Authority.Settled.render_chars (ha : a.Settled scheme) :
    a.render.toList ≠ [] ∧ ∀ c ∈ a.render.toList, 0x20 < c.toNat ∧ c ∉ "#/?\\".toList := by
  obtain ⟨host, hhost, h⟩ := ha.host
  have hnames : ∀ c ∈ a.names, Host.Inner c := by
    intro c hc
    rw [Authority.names] at hc
    split at hc
    next password hp =>
      rcases List.mem_append.mp hc with hc | hc
      · exact inner_of_encoded ha.username c hc
      · rcases List.mem_cons.mp hc with rfl | hc
        · decide
        · exact inner_of_encoded (ha.password password hp).2 c hc
    next => exact inner_of_encoded ha.username c hc
  have hinner (c : Char) (hc : Host.Inner c) : 0x20 < c.toNat ∧ c ∉ "#/?\\".toList := by
    have hsub : ∀ d ∈ "#/?\\".toList, d ∈ "#/?@\\".toList :=
      forall_mem_of_all (by decide)
    exact ⟨hc.1, fun hmem => hc.2 (hsub c hmem)⟩
  rw [Authority.toList_render hhost]
  constructor
  · exact List.append_ne_nil_of_right_ne_nil _
      (List.append_ne_nil_of_left_ne_nil (Host.toList_render_ne_nil h) _)
  · intro c hc
    rcases List.mem_append.mp hc with hc | hc
    · split at hc
      next => cases hc
      next =>
        rcases List.mem_append.mp hc with hc | hc
        · exact hinner c (hnames c hc)
        · rw [List.mem_singleton.mp hc]
          decide
    · rcases List.mem_append.mp hc with hc | hc
      · exact hinner c (Host.inner_render h c hc)
      · exact hinner c (a.inner_portText c hc)

end

end VersionedApi.Url
