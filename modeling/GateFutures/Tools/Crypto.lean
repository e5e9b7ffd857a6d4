/-
This file models `Crypto`, which signs what the account sends, and proves that a signature
binds one request.

Three protocols sign three texts. Each is a concatenation with separators, and can be taken
apart again: the number of its lines says which protocol it belongs to, and its parts hold
no separator.
-/

import GateFutures.Library.Json

namespace GateFutures.Tools

open Library

/-! ### Signing -/

/-- The host's cryptography: `utils::hash::SHA512`, `utils::mac::HMAC` and
`utils::codec::Hex::encode`. -/
structure Cryptography (Digest : Type) where
  sha512 : String → Digest
  hmac : (secret text : String) → Digest
  hex : Digest → String

/-- What the texts rely on of the encoder: a digest is known by its text, which is one line. -/
structure Cryptography.LawfulHex {Digest : Type} (host : Cryptography Digest) : Prop where
  injective : Function.Injective host.hex
  oneLine (digest : Digest) : '\n' ∉ (host.hex digest).toList

/-- `Crypto`. -/
structure Crypto where
  key : String
  secret : String

/-- `PREFIX`. -/
def pathPrefix : String := "/api/v4"

/-- `query_2`: the query without its question mark. -/
def query2 (query : String) : String :=
  if query = "" then "" else String.ofList (query.toList.drop 1)

namespace Crypto

variable {Digest : Type} (host : Cryptography Digest)

/-- The text `create_headers` signs. -/
def headersText (method path query body : String) (timestamp : Int) : String :=
  let signature1 := host.hex (host.sha512 body)
  method ++ "\n" ++ (pathPrefix ++ path) ++ "\n" ++ query2 query ++ "\n" ++ signature1 ++ "\n" ++
    toString timestamp

/-- The text `create_signature_login` signs. -/
def loginText (event channel reqParam : String) (timestamp : Int) : String :=
  event ++ "\n" ++ channel ++ "\n" ++ reqParam ++ "\n" ++ toString timestamp

/-- The text `create_signature` signs. -/
def channelText (channel event : String) (timestamp : Int) : String :=
  "channel=" ++ channel ++ "&event=" ++ event ++ "&time=" ++ toString timestamp

/-- The signature of a text. -/
def sign (crypto : Crypto) (text : String) : String := host.hex (host.hmac crypto.secret text)

/-- `Crypto::create_headers`. -/
def createHeaders (crypto : Crypto) (method path query body : String) (timestamp : Int) :
    String :=
  let signature2 := crypto.sign host (headersText host method path query body timestamp)
  "KEY: " ++ crypto.key ++ "\r\n" ++ "Timestamp: " ++ toString timestamp ++ "\r\n" ++
    "SIGN: " ++ signature2 ++ "\r\n"

/-- `Crypto::create_signature_login`. -/
def createSignatureLogin (crypto : Crypto) (event channel reqParam : String) (timestamp : Int) :
    String := crypto.sign host (loginText event channel reqParam timestamp)

/-- `Crypto::create_signature`. -/
def createSignature (crypto : Crypto) (channel event : String) (timestamp : Int) : String :=
  crypto.sign host (channelText channel event timestamp)

end Crypto

/-! ### Requests -/

/-- What is signed: a REST request, a login, or a subscription to a channel. -/
inductive SignedRequest
  | headers (method path query body : String) (timestamp : Int)
  | login (event channel reqParam : String) (timestamp : Int)
  | subscription (channel event : String) (timestamp : Int)

namespace SignedRequest

variable {Digest : Type} (host : Cryptography Digest)

/-- The text that is signed. -/
def text : SignedRequest → String
  | headers method path query body timestamp =>
    Crypto.headersText host method path query body timestamp
  | login event channel reqParam timestamp => Crypto.loginText event channel reqParam timestamp
  | subscription channel event timestamp => Crypto.channelText channel event timestamp

/-- The character does not occur in the text. -/
def Lacks (c : Char) (text : String) : Prop := c ∉ text.toList

instance (c : Char) (text : String) : Decidable (Lacks c text) :=
  inferInstanceAs (Decidable (_ ∉ _))

/-- A query is empty, or a question mark and at least one more character, on one line. -/
def IsQuery (query : String) : Prop :=
  query = "" ∨ ∃ parameters, query = "?" ++ parameters ∧ parameters ≠ "" ∧ Lacks '\n' parameters

/-- The parts of the request are on one line, and those of a subscription have no `&`. -/
def WellFormed : SignedRequest → Prop
  | headers method path query _ _ => Lacks '\n' method ∧ Lacks '\n' path ∧ IsQuery query
  | login event channel reqParam _ =>
    Lacks '\n' event ∧ Lacks '\n' channel ∧ Lacks '\n' reqParam
  | subscription channel event _ =>
    (Lacks '\n' channel ∧ Lacks '&' channel) ∧ Lacks '\n' event ∧ Lacks '&' event

/-- The requests are of one protocol and have equal arguments, of a body its hash. -/
def Same : SignedRequest → SignedRequest → Prop
  | headers method path query body timestamp, headers method' path' query' body' timestamp' =>
    method = method' ∧ path = path' ∧ query = query' ∧ host.sha512 body = host.sha512 body' ∧
      timestamp = timestamp'
  | login event channel reqParam timestamp, login event' channel' reqParam' timestamp' =>
    event = event' ∧ channel = channel' ∧ reqParam = reqParam' ∧ timestamp = timestamp'
  | subscription channel event timestamp, subscription channel' event' timestamp' =>
    channel = channel' ∧ event = event' ∧ timestamp = timestamp'
  | _, _ => False

/-! ### The parts of a text -/

/-- Texts that lack a separator are known by their concatenation with it. -/
theorem intercalate_injective {separator : Char} {first second : List String}
    (lacks : ∀ text ∈ first, Lacks separator text) (lacks' : ∀ text ∈ second, Lacks separator text)
    (some : first ≠ []) (some' : second ≠ [])
    (same : (String.singleton separator).intercalate first =
      (String.singleton separator).intercalate second) : first = second := by
  have split := congrArg (fun text => (text.split separator).toList.map (·.copy)) same
  simpa only [String.toList_split_intercalate lacks, String.toList_split_intercalate lacks',
    if_neg some, if_neg some'] using split

theorem toString_injective {first second : Int} (same : toString first = toString second) :
    first = second := by
  have value := (Json.isNumber_integer first).denotes
  rw [same, (Json.isNumber_integer second).denotes] at value
  exact_mod_cast (Option.some.inj value).symm

theorem toString_lacks {c : Char} (other : Json.isNumberChar c = false) (value : Int) :
    Lacks c (toString value) := fun member =>
  Bool.noConfusion (other.symm.trans ((Json.isNumber_integer value).characters c member))

theorem Lacks.append {c : Char} {first second : String} (lacks : Lacks c first)
    (lacks' : Lacks c second) : Lacks c (first ++ second) := by
  rw [Lacks, String.toList_append, List.mem_append]
  exact fun member => member.elim lacks lacks'

/-- The query is what its question mark was dropped from. -/
theorem query2_injective {query query' : String} (wellFormed : IsQuery query)
    (wellFormed' : IsQuery query') (same : query2 query = query2 query') : query = query' := by
  have dropped (parameters : String) : query2 ("?" ++ parameters) = parameters := by
    simp [query2]
  rcases wellFormed with rfl | ⟨parameters, rfl, some, -⟩ <;>
    rcases wellFormed' with rfl | ⟨parameters', rfl, some', -⟩
  · rfl
  · exact absurd ((dropped parameters').symm.trans same.symm) some'
  · exact absurd ((dropped parameters).symm.trans same) some
  · rw [dropped, dropped] at same
    rw [same]

theorem query2_lacks {query : String} (wellFormed : IsQuery query) :
    Lacks '\n' (query2 query) := by
  rcases wellFormed with rfl | ⟨parameters, rfl, -, line⟩
  · exact List.not_mem_nil
  · have dropped : query2 ("?" ++ parameters) = parameters := by simp [query2]
    rw [dropped]
    exact line

/-- The lines of the text that is signed. -/
def lines : SignedRequest → List String
  | headers method path query body timestamp =>
    [method, pathPrefix ++ path, query2 query, host.hex (host.sha512 body), toString timestamp]
  | login event channel reqParam timestamp => [event, channel, reqParam, toString timestamp]
  | subscription channel event timestamp => [Crypto.channelText channel event timestamp]

theorem text_eq_lines (request : SignedRequest) :
    request.text host = (String.singleton '\n').intercalate (request.lines host) := by
  cases request <;> rfl

theorem lines_ne_nil (request : SignedRequest) : request.lines host ≠ [] := by
  cases request <;> exact List.cons_ne_nil _ _

/-- The text of a subscription has its parts between the separators. -/
theorem channelText_eq (channel event : String) (timestamp : Int) :
    Crypto.channelText channel event timestamp = (String.singleton '&').intercalate
      ["channel=" ++ channel, "event=" ++ event, "time=" ++ toString timestamp] := by
  have eventPart : "&event=" = "&" ++ "event=" := by decide
  have timePart : "&time=" = "&" ++ "time=" := by decide
  rw [Crypto.channelText, eventPart, timePart]
  show _ = "channel=" ++ channel ++ "&" ++ ("event=" ++ event) ++ "&" ++
    ("time=" ++ toString timestamp)
  simp only [String.append_assoc]

theorem channelText_lacks {channel event : String} (channelLine : Lacks '\n' channel)
    (eventLine : Lacks '\n' event) (timestamp : Int) :
    Lacks '\n' (Crypto.channelText channel event timestamp) :=
  .append (.append (.append (.append (.append (by decide) channelLine) (by decide)) eventLine)
    (by decide)) (toString_lacks rfl timestamp)

theorem lines_lack (lawful : host.LawfulHex) {request : SignedRequest}
    (wellFormed : request.WellFormed) : ∀ line ∈ request.lines host, Lacks '\n' line := by
  cases request with
  | headers method path query body timestamp =>
    obtain ⟨methodLine, pathLine, isQuery⟩ := wellFormed
    simp only [lines, List.forall_mem_cons]
    exact ⟨methodLine, .append (by decide) pathLine, query2_lacks isQuery,
      lawful.oneLine (host.sha512 body), toString_lacks rfl timestamp, List.forall_mem_nil _⟩
  | login event channel reqParam timestamp =>
    obtain ⟨eventLine, channelLine, reqParamLine⟩ := wellFormed
    simp only [lines, List.forall_mem_cons]
    exact ⟨eventLine, channelLine, reqParamLine, toString_lacks rfl timestamp,
      List.forall_mem_nil _⟩
  | subscription channel event timestamp =>
    obtain ⟨⟨channelLine, -⟩, eventLine, -⟩ := wellFormed
    simp only [lines, List.forall_mem_cons]
    exact ⟨channelText_lacks channelLine eventLine timestamp, List.forall_mem_nil _⟩

/-- Equal texts of subscriptions are of equal subscriptions. -/
theorem channelText_injective {channel channel' event event' : String} {timestamp timestamp' : Int}
    (lacks : Lacks '&' channel ∧ Lacks '&' event) (lacks' : Lacks '&' channel' ∧ Lacks '&' event')
    (same : Crypto.channelText channel event timestamp =
      Crypto.channelText channel' event' timestamp') :
    channel = channel' ∧ event = event' ∧ timestamp = timestamp' := by
  have parts (channel event : String) (timestamp : Int)
      (lacks : Lacks '&' channel ∧ Lacks '&' event) : ∀ part ∈ ["channel=" ++ channel,
        "event=" ++ event, "time=" ++ toString timestamp], Lacks '&' part := by
    simp only [List.forall_mem_cons]
    exact ⟨.append (by decide) lacks.1, .append (by decide) lacks.2,
      .append (by decide) (toString_lacks rfl timestamp), List.forall_mem_nil _⟩
  rw [channelText_eq, channelText_eq] at same
  have equal := intercalate_injective (parts channel event timestamp lacks)
    (parts channel' event' timestamp' lacks') (List.cons_ne_nil _ _) (List.cons_ne_nil _ _) same
  simp only [List.cons.injEq, String.append_right_inj, and_true] at equal
  exact ⟨equal.1, equal.2.1, toString_injective equal.2.2⟩

/-- Equal texts are of one protocol, and of equal arguments up to the hash of a body. -/
theorem same_of_text (lawful : host.LawfulHex) {first second : SignedRequest}
    (wellFormed : first.WellFormed) (wellFormed' : second.WellFormed)
    (same : first.text host = second.text host) : first.Same host second := by
  rw [text_eq_lines, text_eq_lines] at same
  have equal := intercalate_injective (lines_lack host lawful wellFormed)
    (lines_lack host lawful wellFormed') (lines_ne_nil host first) (lines_ne_nil host second) same
  cases first with
  | headers method path query body timestamp =>
    cases second with
    | headers method' path' query' body' timestamp' =>
      simp only [lines, List.cons.injEq, String.append_right_inj, and_true] at equal
      obtain ⟨methods, paths, queries, hashes, timestamps⟩ := equal
      exact ⟨methods, paths, query2_injective wellFormed.2.2 wellFormed'.2.2 queries,
        lawful.injective hashes, toString_injective timestamps⟩
    | login => exact absurd (congrArg List.length equal) (by simp [lines])
    | subscription => exact absurd (congrArg List.length equal) (by simp [lines])
  | login event channel reqParam timestamp =>
    cases second with
    | headers => exact absurd (congrArg List.length equal) (by simp [lines])
    | login event' channel' reqParam' timestamp' =>
      simp only [lines, List.cons.injEq, and_true] at equal
      obtain ⟨events, channels, reqParams, timestamps⟩ := equal
      exact ⟨events, channels, reqParams, toString_injective timestamps⟩
    | subscription => exact absurd (congrArg List.length equal) (by simp [lines])
  | subscription channel event timestamp =>
    cases second with
    | headers => exact absurd (congrArg List.length equal) (by simp [lines])
    | login => exact absurd (congrArg List.length equal) (by simp [lines])
    | subscription channel' event' timestamp' =>
      exact channelText_injective ⟨wellFormed.1.2, wellFormed.2.2⟩
        ⟨wellFormed'.1.2, wellFormed'.2.2⟩ (List.cons.inj equal).1

theorem text_of_same {first second : SignedRequest} (same : first.Same host second) :
    first.text host = second.text host := by
  cases first <;> cases second <;> first
    | exact same.elim
    | simp_all [Same, text, Crypto.headersText, Crypto.loginText, Crypto.channelText]

end SignedRequest

/-! ### What a signature binds -/

/-- Well-formed requests have equal texts exactly if they are of one protocol and have equal
arguments, of a body its hash. Equal signatures are of such requests, or of two texts on which
the message authentication code collides. -/
theorem signature_binds {Digest : Type} (host : Cryptography Digest) (lawful : host.LawfulHex)
    (crypto : Crypto) (first second : SignedRequest) (wellFormed : first.WellFormed)
    (wellFormed' : second.WellFormed) :
    (first.text host = second.text host ↔ first.Same host second) ∧
      (crypto.sign host (first.text host) = crypto.sign host (second.text host) →
        first.Same host second ∨ first.text host ≠ second.text host ∧
          host.hmac crypto.secret (first.text host) =
            host.hmac crypto.secret (second.text host)) := by
  have binds : first.text host = second.text host ↔ first.Same host second :=
    ⟨SignedRequest.same_of_text host lawful wellFormed wellFormed',
      SignedRequest.text_of_same host⟩
  refine ⟨binds, fun signatures => ?_⟩
  by_cases same : first.text host = second.text host
  · exact Or.inl (binds.mp same)
  · exact Or.inr ⟨same, lawful.injective signatures⟩

/-! ### A download and a login -/

/-- A hexadecimal digit. -/
def hexDigit (value : Fin 16) : Char :=
  if value.val < 10 then Char.ofNat (48 + value.val) else Char.ofNat (87 + value.val)

/-- The values of hexadecimal digits. -/
def hexValues (digits : String) : List (Fin 16) :=
  digits.toList.map fun c => Fin.ofNat 16 (if c.isDigit then c.toNat - 48 else c.toNat - 87)

/-- A download of the account's trades. -/
def plainDownloadRequest : SignedRequest :=
  .headers "GET" "/futures/usdt/my_trades" "?from=1727165520" "" 1727169120

/-- A login. -/
def plainLoginRequest : SignedRequest := .login "api" "futures.login" "" 1727169120

/-- The digests of the empty body, of the download and of the login, with the secret `secret`. -/
def plainCryptography : Cryptography (List (Fin 16)) where
  sha512 body :=
    if body = "" then hexValues
      ("cf83e1357eefb8bdf1542850d66d8007d620e4050b5715dc83f4a921d36ce9ce" ++
      "47d0d13c5d85f2b0ff8318d2877eec2f63b931bd47417a81a538327af927da3e")
    else []
  hmac secret text :=
    if secret = "secret" ∧ text = "api\nfutures.login\n\n1727169120" then hexValues
      ("092edca07694e259f0e4f5f31f81df31d87b00d11e9701b1cefc1431d945b5d3" ++
      "ec0d5ecab0972faceeb6b4014704e3deeb33d005516b74b840e49cc19cf3ecd7")
    else hexValues
      ("1b7fd94fdce715b6208cd391bf960fb3d6ce99a0e7c3dfc8de7f1b591395163b" ++
      "73c44d6c39a179a672371d1dc6ac021e2d97cf5627bdc157074e69b01807b62c")
  hex digest := String.ofList (digest.map hexDigit)

theorem plainCryptography_lawful : plainCryptography.LawfulHex where
  injective := by
    intro first second same
    have distinct : ∀ value other, hexDigit value = hexDigit other → value = other := by decide
    have digits : Function.Injective hexDigit := fun value other => distinct value other
    exact List.map_injective_iff.mpr digits (String.ofList_injective same)
  oneLine digest := by
    have digits : ∀ value, hexDigit value ≠ '\n' := by decide
    intro member
    rw [show plainCryptography.hex digest = String.ofList (digest.map hexDigit) from rfl,
      String.toList_ofList] at member
    obtain ⟨value, -, same⟩ := List.mem_map.mp member
    exact digits value same

/-- The download and the login, made in one second, have different texts. -/
theorem signature_binds_plain :
    plainDownloadRequest.text plainCryptography ≠ plainLoginRequest.text plainCryptography :=
  fun same => (signature_binds plainCryptography plainCryptography_lawful ⟨"key", "secret"⟩
    plainDownloadRequest plainLoginRequest
    ⟨by decide, by decide, Or.inr ⟨"from=1727165520", rfl, by decide, by decide⟩⟩
    ⟨by decide, by decide, by decide⟩).1.mp same

end GateFutures.Tools
