import Tunnel.Channel.Run
import Tunnel.Handshake
import Tunnel.Headers
import Mathlib.Tactic.SplitIfs

/-!
# From credentials to a handshake

Credentials are checked by one grammar of URLs and sent by another, and the check of a token asks
less than a header field does. What the check lets through makes a handshake if its URL is a request
target and its token a field value, and fails as an attempt otherwise: the channel has started by
then. A target without a host is never reached, since such a text is no URL.
-/
namespace Tunnel

namespace Url

/-- A text keeps its first character if that is no blank. -/
theorem clean_eq_cons {text : String} {a : Char} {rest : List Char} (h : text.toList = a :: rest)
    (ha : 32 < a.toNat) : ∃ rest', clean text = a :: rest' := by
  have htab : a ≠ '\t' ∧ a ≠ '\n' ∧ a ≠ '\r' := by
    refine ⟨?_, ?_, ?_⟩ <;> rintro rfl <;> exact absurd ha (by decide)
  have hend (cs : List Char) : ∃ cs',
      ((cs ++ [a]).dropWhile fun c => decide (c.toNat ≤ 32)) = cs' ++ [a] := by
    induction cs with
    | nil => exact ⟨[], by simp [ha]⟩
    | cons c cs ih =>
      rw [List.cons_append, List.dropWhile_cons]
      split
      · exact ih
      · exact ⟨c :: cs, rfl⟩
  obtain ⟨cs', hcs⟩ := hend rest.reverse
  refine ⟨cs'.reverse.filter fun c => !(c == '\t' || c == '\n' || c == '\r'), ?_⟩
  have hdrop : (text.toList.dropWhile fun c => decide (c.toNat ≤ 32)) = a :: rest := by
    rw [h, List.dropWhile_cons_of_neg (by simp [ha])]
  rw [clean, hdrop, List.reverse_cons, hcs, List.reverse_append, List.reverse_singleton,
    List.singleton_append, List.filter_cons_of_pos (by simp [htab])]

/-- A text that starts with a sign has no scheme. -/
theorem parse_eq_noBase {text : String} {a : Char} {rest : List Char}
    (h : text.toList = a :: rest) (ha : 32 < a.toNat) (hs : a.isAlpha = false) :
    parse text = .error .noBase := by
  obtain ⟨rest', hc⟩ := clean_eq_cons h ha
  have hscheme : splitScheme (a :: rest') = none := by simp only [splitScheme, hs]
  rw [parse, read, hc, hscheme]

end Url

namespace Uri

theorem withPath_authority {u u' : Uri} {cs : List Char} (h : u.withPath cs = .ok u') :
    u'.authority = u.authority := by
  rw [withPath] at h
  cases hr : readPath cs with
  | error e => rw [hr] at h; exact absurd h nofun
  | ok r => rw [hr] at h; rw [← Except.ok.inj h]

theorem readFull_authority {cs : List Char} {u : Uri} (h : readFull cs = .ok u) :
    u.authority.isSome := by
  rw [readFull] at h
  cases hs : splitScheme cs with
  | error e => rw [hs] at h; exact absurd h nofun
  | ok s =>
    rw [hs] at h
    obtain ⟨scheme, after⟩ := s
    cases ha : readAuthority after with
    | error e => simp [bind, Except.bind, ha] at h
    | ok a =>
      obtain ⟨authority, rest⟩ := a
      cases scheme with
      | none =>
        simp only [bind, Except.bind, ha] at h
        split at h
        · rw [← Except.ok.inj h]; rfl
        · exact absurd h nofun
      | some scheme =>
        simp only [bind, Except.bind, ha] at h
        split at h
        · exact absurd h nofun
        · rw [withPath_authority h]; rfl

/-- A target without an authority is a path or a star. -/
theorem exists_cons_of_no_authority {text : String} {u : Uri} (h : parse text = .ok u)
    (hn : u.authority = none) : ∃ a rest, text.toList = a :: rest ∧ (a = '/' ∨ a = '*') := by
  rw [parse] at h
  split at h
  · exact absurd h nofun
  · split at h
    · exact absurd h nofun
    · rename_i rest hcs
      exact ⟨'/', rest, hcs, .inl rfl⟩
    · rename_i c _ hcs
      split at h
      · rw [readSingle] at h
        split at h
        · rename_i hc
          exact ⟨c, [], hcs, hc⟩
        · cases ha : readAuthority [c] with
          | error e => simp [bind, Except.bind, ha] at h
          | ok a =>
            simp only [bind, Except.bind, ha] at h
            split at h
            · rw [← Except.ok.inj h] at hn; exact absurd hn nofun
            · exact absurd h nofun
      · have := readFull_authority h
        rw [hn] at this
        exact absurd this nofun
    · have := readFull_authority h
      rw [hn] at this
      exact absurd this nofun

/-- What is both a URL and a request target names a host. -/
theorem authority_of_url {text : String} {u : Uri} {url : Url} (h : parse text = .ok u)
    (hu : Url.parse text = .ok url) : ∃ authority, u.authority = some authority := by
  cases ha : u.authority with
  | some authority => exact ⟨authority, rfl⟩
  | none =>
    obtain ⟨a, rest, hcs, rfl | rfl⟩ := exists_cons_of_no_authority h ha
    · rw [Url.parse_eq_noBase hcs (by decide) (by decide)] at hu
      exact absurd hu nofun
    · rw [Url.parse_eq_noBase hcs (by decide) (by decide)] at hu
      exact absurd hu nofun

end Uri

namespace Handshake

variable {c : Credentials}

theorem isFieldValue_bearer (token : String) :
    Http.isFieldValue (bearer token) = Http.isFieldValue token := by
  have hb : (bearer token).toList = "Bearer ".toList ++ token.toList :=
    String.toList_append
  have hw : "Bearer ".toList.all Http.isValueChar = true := by decide
  rw [Http.isFieldValue, Http.isFieldValue, hb, List.all_append, hw, Bool.true_and]

theorem url_of_validate (h : c.validate.isOk = true) :
    ∃ url, Url.parse c.relayUrl = .ok url := by
  rw [Credentials.validate, Validation.relayUrl] at h
  cases hu : Url.parse c.relayUrl with
  | ok url => exact ⟨url, rfl⟩
  | error e =>
    simp only [hu] at h
    split_ifs at h <;> exact absurd h nofun

/-- The ways in which credentials without a handshake lack one. -/
theorem ofCredentials_eq_error {e : HandshakeError} {url : Url}
    (hu : Url.parse c.relayUrl = .ok url) (h : ofCredentials c = .error e) :
    (∃ u, Uri.parse c.relayUrl = .error u ∧ e = .uri u) ∨
      Http.isFieldValue c.token = false ∧ e = .token := by
  rw [ofCredentials] at h
  cases hp : Uri.parse c.relayUrl with
  | error u =>
    rw [hp] at h
    exact .inl ⟨u, rfl, (Except.error.inj h).symm⟩
  | ok uri =>
    obtain ⟨authority, ha⟩ := Uri.authority_of_url hp hu
    simp only [hp, ha, isFieldValue_bearer] at h
    split at h
    · rename_i hv
      exact .inr ⟨by simpa using hv, (Except.error.inj h).symm⟩
    · exact absurd h nofun

/-- No other field of a handshake has a name that a relay takes for that of the token. -/
theorem getAll_authorization (host value : String) :
    (Headers.mk
      [("host", host), ("connection", "Upgrade"), ("upgrade", "websocket"),
        ("sec-websocket-version", "13"), ("authorization", value)]).getAll "authorization" =
      [value] := by
  have hother : ∀ name ∈ ["host", "connection", "upgrade", "sec-websocket-version"],
      sameName name "authorization" = false := by decide +kernel
  have hsame : sameName "authorization" "authorization" = true := by simp [sameName]
  simp [Headers.getAll, hother, hsame]

/-- A handshake has the target of its URL, and shows the token once and as it is. -/
theorem ofCredentials_eq_ok {request : Handshake} (h : ofCredentials c = .ok request) :
    Uri.parse c.relayUrl = .ok request.uri ∧ Http.isFieldValue c.token = true ∧
      (Headers.mk request.fields).getAll "authorization" = ["Bearer " ++ c.token] := by
  rw [ofCredentials] at h
  split at h
  · exact absurd h nofun
  · rename_i uri hp
    split at h
    · exact absurd h nofun
    · rename_i authority _
      split at h
      · exact absurd h nofun
      · rename_i hv
        rw [isFieldValue_bearer] at hv
        rw [← Except.ok.inj h]
        exact ⟨hp, by simpa using hv, getAll_authorization _ _⟩

/-- Credentials that the check lets through make a handshake exactly if their URL is a request
target and their token a field value. The handshake then shows their token, once; otherwise building
it fails for the URL or for the token. A channel starts in either case: the check is all it asks. -/
theorem checked_handshake (h : c.validate.isOk = true) :
    ((∃ request, ofCredentials c = .ok request) ↔
      (∃ uri, Uri.parse c.relayUrl = .ok uri) ∧ Http.isFieldValue c.token = true) ∧
    (∀ request, ofCredentials c = .ok request →
      Uri.parse c.relayUrl = .ok request.uri ∧
        (Headers.mk request.fields).getAll "authorization" = ["Bearer " ++ c.token]) ∧
    (∀ e, ofCredentials c = .error e →
      (∃ u, Uri.parse c.relayUrl = .error u ∧ e = .uri u) ∨
        Http.isFieldValue c.token = false ∧ e = .token) ∧
    ∀ {σ : Type} (handler : Handler σ) (channel : Channel σ), channel.credentials = c →
      (channel.connect handler).1.isOk = true := by
  obtain ⟨url, hu⟩ := url_of_validate h
  refine ⟨⟨?_, ?_⟩, ?_, fun e he => ofCredentials_eq_error hu he, ?_⟩
  · rintro ⟨request, hr⟩
    obtain ⟨hp, hv, -⟩ := ofCredentials_eq_ok hr
    exact ⟨⟨_, hp⟩, hv⟩
  · rintro ⟨⟨uri, hp⟩, hv⟩
    cases hr : ofCredentials c with
    | ok request => exact ⟨request, rfl⟩
    | error e =>
      obtain ⟨u, hp', -⟩ | ⟨hv', -⟩ := ofCredentials_eq_error hu hr
      · rw [hp] at hp'; exact absurd hp' nofun
      · rw [hv] at hv'; exact absurd hv' nofun
  · intro request hr
    obtain ⟨hp, -, ht⟩ := ofCredentials_eq_ok hr
    exact ⟨hp, ht⟩
  · intro σ handler channel hc
    rw [Channel.connect, hc]
    cases hv : c.validate with
    | error e => rw [hv] at h; exact absurd h nofun
    | ok =>
      simp only
      split_ifs <;> rfl

/-- A user name, a port and a query leave the field for the token alone. -/
theorem checked_handshake_user :
    (Credentials.validate ⟨"wss://user@relay.example.com:444/c?d=e", "t0k é"⟩).isOk = true ∧
      ∃ request, ofCredentials ⟨"wss://user@relay.example.com:444/c?d=e", "t0k é"⟩ = .ok request ∧
        (Headers.mk request.fields).getAll "authorization" = ["Bearer t0k é"] := by
  have hv : (Credentials.validate
      ⟨"wss://user@relay.example.com:444/c?d=e", "t0k é"⟩).isOk = true := by decide +kernel
  have hu : ∃ uri, Uri.parse "wss://user@relay.example.com:444/c?d=e" = .ok uri := ⟨_, rfl⟩
  obtain ⟨request, hr⟩ := (checked_handshake hv).1.mpr ⟨hu, by decide⟩
  exact ⟨hv, request, hr, ((checked_handshake hv).2.1 request hr).2⟩

/-- The check lets through a token with a line end, and a URL with a blank in its path. Neither
makes a handshake. -/
theorem checked_without_handshake :
    ((Credentials.validate ⟨"wss://relay.example.com", "bad\ntoken"⟩).isOk = true ∧
      ofCredentials ⟨"wss://relay.example.com", "bad\ntoken"⟩ = .error .token) ∧
    (Credentials.validate ⟨"wss://relay.example.com/a b", "t"⟩).isOk = true ∧
      ofCredentials ⟨"wss://relay.example.com/a b", "t"⟩ = .error (.uri .character) := by
  refine ⟨⟨by decide +kernel, rfl⟩, by decide +kernel, rfl⟩

end Handshake

end Tunnel
