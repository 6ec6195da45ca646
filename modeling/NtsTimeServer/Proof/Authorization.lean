import NtsTimeServer.Lib.Json
import NtsTimeServer.Model.AcmeJson

namespace NtsTimeServer.Proof
open Model Lib

variable {text name value p : Bytes} {size : Nat}

def MemberAt (text name value : Bytes) (place : Nat) : Prop :=
  ∃ gap gap' after, gap.all isJsonSpace = true ∧ gap'.all isJsonSpace = true ∧
    text.drop place = quoted name ++ (gap ++ 0x3A :: (gap' ++ (quoted value ++ after)))

/-- The first occurrence of a quoted name is the name of a member with this value. -/
def FirstMember (text name value : Bytes) : Prop :=
  ∃ place, FirstAt (quoted name) text place ∧ MemberAt text name value place

structure Fits (value : Bytes) (size : Nat) : Prop where
  nonempty : value ≠ []
  plain : value.all isPlain = true
  short : value.length < size

theorem skipWs_eq (p : Bytes) : skipWs p = p.dropWhile isJsonSpace := rfl

theorem skipWs_append {gap : Bytes} (space : gap.all isJsonSpace = true) {c : UInt8}
    (ended : isJsonSpace c = false) (rest : Bytes) : skipWs (gap ++ c :: rest) = c :: rest := by
  rw [skipWs_eq, List.dropWhile_append_of_pos (List.all_eq_true.mp space),
    List.dropWhile_cons_of_neg (by simp [ended])]

theorem skipWs_cons {c : UInt8} {rest : Bytes} (skipped : skipWs p = c :: rest) :
    ∃ gap, p = gap ++ c :: rest ∧ gap.all isJsonSpace = true := by
  refine ⟨p.takeWhile isJsonSpace, ?_, List.all_takeWhile⟩
  rw [← skipped, skipWs_eq, List.takeWhile_append_dropWhile]

theorem isPlain_iff (c : UInt8) : isPlain c = true ↔ c ≠ 0x22 ∧ c ≠ 0x5C ∧ ¬c < 0x20 := by
  simp [isPlain, and_assoc]

theorem copyString_eq_some_iff {used : Nat} : copyString size used p = some value ↔
    ∃ after, p = value ++ 0x22 :: after ∧ value.all isPlain = true ∧
      (value ≠ [] → used + value.length < size) ∧ 0 < used + value.length := by
  induction p generalizing used value with
  | nil => simp [copyString]
  | cons c p ih =>
      rw [copyString]
      by_cases quote : c = 0x22
      · rw [if_pos quote, quote]
        constructor
        · intro copied
          split at copied
          · cases copied
          · obtain rfl := Option.some.inj copied
            exact ⟨p, rfl, rfl, by simp, by simp; omega⟩
        · rintro ⟨after, same, plain, -, most⟩
          cases value with
          | nil => rw [if_neg (by simpa using Nat.ne_of_gt most)]
          | cons d value =>
              obtain ⟨rfl, -⟩ := List.cons.inj same
              cases plain
      · rw [if_neg quote]
        split
        next refused =>
          refine ⟨nofun, ?_⟩
          rintro ⟨after, same, plain, short, -⟩
          cases value with
          | nil => exact absurd (List.cons.inj same).1 quote
          | cons d value =>
              obtain ⟨rfl, -⟩ := List.cons.inj same
              rw [List.all_cons, Bool.and_eq_true, isPlain_iff] at plain
              have fits := short nofun
              rw [List.length_cons] at fits
              obtain slash | control | full := refused
              · exact absurd slash plain.1.2.1
              · exact absurd control plain.1.2.2
              · omega
        next taken =>
          rw [not_or, not_or] at taken
          rw [Option.map_eq_some_iff]
          constructor
          · rintro ⟨rest, copied, rfl⟩
            obtain ⟨after, rfl, plain, short, -⟩ := ih.mp copied
            refine ⟨after, rfl, ?_, fun _ => ?_, by simp⟩
            · rw [List.all_cons, plain, Bool.and_true, isPlain_iff]
              exact ⟨quote, taken.1, taken.2.1⟩
            · cases rest with
              | nil =>
                  rw [List.length_singleton]
                  omega
              | cons d rest =>
                  have fits := short nofun
                  rw [List.length_cons]
                  omega
          · rintro ⟨after, same, plain, short, -⟩
            cases value with
            | nil => exact absurd (List.cons.inj same).1 quote
            | cons d value =>
                obtain ⟨rfl, rfl⟩ := List.cons.inj same
                rw [List.all_cons, Bool.and_eq_true] at plain
                have fits := short nofun
                rw [List.length_cons] at fits
                refine ⟨value, ih.mpr ⟨after, rfl, plain.2, fun _ => by omega, by omega⟩, rfl⟩

/-- A search for a member finds a value that fits if and only if the first occurrence of the name is
followed by it. -/
theorem extractJsonString_iff (key : name.length + 2 < 64) (fits : Fits value size) :
    extractJsonString text name size = some value ↔ FirstMember text name value := by
  obtain ⟨nonempty, plain, short⟩ := fits
  have length : 0 < value.length := List.length_pos_iff.mpr nonempty
  have keyLength : (quoted name).length = name.length + 2 := by simp [quoted]
  have sized : ¬size < 2 := by omega
  have small : ¬(quoted name).length ≥ 64 := by omega
  have quotedName : 0x22 :: (name ++ [0x22]) = quoted name := rfl
  rw [extractJsonString, if_neg sized]
  simp only [quotedName, if_neg small]
  constructor
  · intro found
    split at found
    · cases found
    next offset search =>
      have first := findPattern_eq_some_iff.mp search
      split at found
      · cases found
      next colon p skipped =>
        obtain ⟨gap, here, space⟩ := skipWs_cons skipped
        split at found
        · cases found
        next isColon =>
          split at found
          · cases found
          next quote p' skipped' =>
            obtain ⟨gap', here', space'⟩ := skipWs_cons skipped'
            split at found
            · cases found
            next isQuote =>
              obtain ⟨after, rfl, -⟩ := copyString_eq_some_iff.mp found
              rw [not_not] at isColon isQuote
              obtain ⟨rest, occurs⟩ := first.occurs
              have behind : text.drop (offset + (quoted name).length) = rest := by
                rw [← List.drop_drop, ← occurs, List.drop_left]
              refine ⟨offset, first, gap, gap', after, space, space', ?_⟩
              rw [← occurs, ← behind, here, here', isColon, isQuote]
              simp [quoted]
  · rintro ⟨place, first, gap, gap', after, space, space', stands⟩
    have search := findPattern_eq_some_iff.mpr first
    have rest : text.drop (place + (quoted name).length) =
        gap ++ 0x3A :: (gap' ++ (quoted value ++ after)) := by
      rw [← List.drop_drop, stands, List.drop_left]
    have string : quoted value ++ after = 0x22 :: (value ++ 0x22 :: after) := by simp [quoted]
    simp only [search, rest, skipWs_append space (show isJsonSpace 0x3A = false by decide), string,
      skipWs_append space' (show isJsonSpace 0x22 = false by decide), ne_eq, not_true_eq_false, if_false]
    exact copyString_eq_some_iff.mpr ⟨after, rfl, plain, fun _ => by omega, by omega⟩

/-! ## The braces around a type -/

def TypeAt (text : Bytes) (offset : Nat) : Prop :=
  FirstAt dns01Type text offset ∨
    (∀ other, ¬OccursAt dns01Type text other) ∧ FirstAt dns01SpacedType text offset

structure Braces (text : Bytes) (offset start finish : Nat) : Prop where
  before : start ≤ offset
  opens : byteAt text start = 0x7B
  nearest : ∀ i, start < i → i ≤ offset → byteAt text i ≠ 0x7B
  after : offset ≤ finish
  closes : byteAt text finish = 0x7D
  first : ∀ i, offset ≤ i → i < finish → byteAt text i ≠ 0x7D

theorem typeAt_iff (offset : Nat) :
    (findPattern dns01Type text).or (findPattern dns01SpacedType text) = some offset ↔
      TypeAt text offset := by
  rw [TypeAt, ← findPattern_eq_none_iff, ← findPattern_eq_some_iff, ← findPattern_eq_some_iff]
  cases findPattern dns01Type text with
  | none => simp
  | some compact => simp

theorem scanBack_spec (text : Bytes) (offset : Nat) :
    scanBack text offset ≤ offset ∧
      (∀ i, scanBack text offset < i → i ≤ offset → byteAt text i ≠ 0x7B) ∧
      (scanBack text offset = 0 ∨ byteAt text (scanBack text offset) = 0x7B) := by
  induction offset with
  | zero => exact ⟨le_rfl, fun i more less => by rw [scanBack] at more; omega, .inl rfl⟩
  | succ offset ih =>
      rw [scanBack]
      split
      next other =>
        refine ⟨ih.1.trans (Nat.le_succ offset), fun i more less => ?_, ih.2.2⟩
        obtain earlier | here := Nat.le_succ_iff.mp less
        · exact ih.2.1 i more earlier
        · rw [here]
          exact other
      next here =>
        exact ⟨le_rfl, fun i more less => by omega, .inr (not_not.mp here)⟩

theorem scanBack_eq {offset start finish : Nat} (braces : Braces text offset start finish) :
    scanBack text offset = start := by
  obtain ⟨within, passed, ended⟩ := scanBack_spec text offset
  rcases Nat.lt_trichotomy (scanBack text offset) start with less | same | more
  · exact absurd braces.opens (passed start less braces.before)
  · exact same
  · rcases ended with zero | brace
    · omega
    · exact absurd brace (braces.nearest _ more within)

theorem occursAt_singleton {c : UInt8} (nonzero : c ≠ 0) (offset : Nat) :
    OccursAt [c] text offset ↔ byteAt text offset = c.toNat := by
  rw [OccursAt, byteAt, List.getD_eq_getElem?_getD, ← List.head?_drop]
  cases text.drop offset with
  | nil =>
      have zero : ¬0 = c.toNat := fun same => nonzero (UInt8.toNat_inj.mp same.symm)
      simp [zero]
  | cons d rest =>
      rw [List.head?_cons, Option.getD_some, UInt8.toNat_inj]
      simp [List.cons_prefix_cons, eq_comm]

theorem closingBrace_iff {offset rest : Nat} : findPattern [0x7D] (text.drop offset) = some rest ↔
    byteAt text (offset + rest) = 0x7D ∧
      ∀ i, offset ≤ i → i < offset + rest → byteAt text i ≠ 0x7D := by
  have here (i : Nat) : OccursAt [0x7D] (text.drop offset) i ↔ byteAt text (offset + i) = 0x7D := by
    rw [OccursAt, List.drop_drop, ← OccursAt]
    exact occursAt_singleton (by decide) _
  rw [findPattern_eq_some_iff]
  constructor
  · intro found
    refine ⟨(here rest).mp found.occurs, fun i least most => ?_⟩
    have earlier := found.first (i - offset) (by omega)
    rwa [here, Nat.add_sub_cancel' least] at earlier
  · rintro ⟨closes, first⟩
    refine ⟨(here rest).mpr closes, fun i less => ?_⟩
    rw [here]
    exact first _ (by omega) (by omega)

/-- The challenge between the nearest braces around its type has these values. -/
def ChallengeBetweenBraces (text : Bytes) (challenge : Dns01Challenge) : Prop :=
  ∃ type start finish, TypeAt text type ∧ Braces text type start finish ∧ finish - start + 1 < 1536 ∧
    FirstMember (window text start (finish - start + 1)) (ascii "url") challenge.url ∧
    FirstMember (window text start (finish - start + 1)) (ascii "token") challenge.token ∧
    FirstMember (window text start (finish - start + 1)) (ascii "status") challenge.status

theorem extractDns01Challenge_iff {challenge : Dns01Challenge} {urlSize tokenSize statusSize : Nat}
    (url : Fits challenge.url urlSize) (token : Fits challenge.token tokenSize)
    (status : Fits challenge.status statusSize) :
    extractDns01Challenge text urlSize tokenSize statusSize = some challenge ↔
      ChallengeBetweenBraces text challenge := by
  have members (object : Bytes) :
      ((extractJsonString object (ascii "url") urlSize).bind fun url =>
        (extractJsonString object (ascii "token") tokenSize).bind fun token =>
          (extractJsonString object (ascii "status") statusSize).map fun status =>
            (⟨url, token, status⟩ : Dns01Challenge)) = some challenge ↔
        FirstMember object (ascii "url") challenge.url ∧ FirstMember object (ascii "token") challenge.token ∧
          FirstMember object (ascii "status") challenge.status := by
    rw [← extractJsonString_iff (by decide) url, ← extractJsonString_iff (by decide) token,
      ← extractJsonString_iff (by decide) status]
    obtain ⟨urlValue, tokenValue, statusValue⟩ := challenge
    simp only [Option.bind_eq_some_iff, Option.map_eq_some_iff, Dns01Challenge.mk.injEq]
    constructor
    · rintro ⟨_, foundUrl, _, foundToken, _, foundStatus, rfl, rfl, rfl⟩
      exact ⟨foundUrl, foundToken, foundStatus⟩
    · rintro ⟨foundUrl, foundToken, foundStatus⟩
      exact ⟨_, foundUrl, _, foundToken, _, foundStatus, rfl, rfl, rfl⟩
  rw [extractDns01Challenge]
  constructor
  · intro found
    split at found
    · cases found
    next type search =>
      dsimp only at found
      split at found
      · cases found
      next opens =>
        split at found
        · cases found
        next rest closing =>
          split at found
          · cases found
          next short =>
            obtain ⟨closes, first⟩ := closingBrace_iff.mp closing
            obtain ⟨within, passed, -⟩ := scanBack_spec text type
            refine ⟨type, scanBack text type, type + rest, (typeAt_iff type).mp search,
              ⟨within, not_not.mp opens, passed, Nat.le_add_right _ _, closes, first⟩, by omega, ?_⟩
            exact (members _).mp found
  · rintro ⟨type, start, finish, typed, braces, short, values⟩
    have search := (typeAt_iff type).mpr typed
    have sum : type + (finish - type) = finish := Nat.add_sub_cancel' braces.after
    have closing : findPattern [0x7D] (text.drop type) = some (finish - type) := by
      rw [closingBrace_iff, sum]
      exact ⟨braces.closes, braces.first⟩
    have small : ¬finish - start + 1 ≥ 1536 := by omega
    simp only [search, scanBack_eq braces, braces.opens, closing, sum, if_neg small, ne_eq, not_true_eq_false,
      if_false]
    exact (members _).mpr values

/-! ## Authorization objects -/

structure AuthorizationValues where
  status : Bytes
  challenge : Dns01Challenge

def HasString (value : Json) (name : String) (content : Bytes) : Prop :=
  value.member (ascii name) = some (.string content)

def isDns01 (value : Json) : Bool :=
  match value.member (ascii "type") with
  | some (.string raw) => unescape raw = some (ascii "dns-01")
  | _ => false

/-- A text of an authorization with one dns-01 challenge. Its other members are any valid JSON. -/
structure IsAuthorization (document : Spaced Json) (values : AuthorizationValues) : Prop where
  spaced : document.isSpaced = true
  valid : document.value.isValid = true
  status : HasString document.value "status" values.status
  challenges : ∃ space elements challenge,
    document.value.member (ascii "challenges") = some (.array space elements) ∧
      elements.filter (fun element => isDns01 element.value) = [challenge] ∧
      HasString challenge.value "url" values.challenge.url ∧
      HasString challenge.value "token" values.challenge.token ∧
      HasString challenge.value "status" values.challenge.status

structure Authorization where
  document : Spaced Json
  values : AuthorizationValues
  isAuthorization : IsAuthorization document values

def Authorization.json (authorization : Authorization) : Bytes := authorization.document.text Json.text

structure OutputSizes where
  url : Nat
  token : Nat
  status : Nat
  authorizationStatus : Nat
  challengeStatus : Nat

structure ValuesFit (values : AuthorizationValues) (sizes : OutputSizes) : Prop where
  status : Fits values.status sizes.authorizationStatus
  url : Fits values.challenge.url (min sizes.url acmeUrlMaxLength)
  token : Fits values.challenge.token (min sizes.token (acmeChallengeTokenMaxLength + 1))
  challengeStatus : Fits values.challenge.status (min sizes.status sizes.challengeStatus)

structure ReadAsWritten (text : Bytes) (values : AuthorizationValues) (sizes : OutputSizes) : Prop where
  parse : parseAuthorizationStatus text sizes.authorizationStatus sizes.challengeStatus =
    .ok ⟨values.status, values.challenge.status⟩
  extract : extractDns01Challenge text sizes.url sizes.token sizes.status = some values.challenge

/-- The first `"status"` of the text has the status of the authorization, and the text between the braces
around the type of the challenge has its values. -/
structure PlainLayout (text : Bytes) (values : AuthorizationValues) : Prop where
  status : FirstMember text (ascii "status") values.status
  challenge : ChallengeBetweenBraces text values.challenge

theorem Fits.mono {less more : Nat} (fits : Fits value less) (within : less ≤ more) : Fits value more :=
  { fits with short := fits.short.trans_le within }

/-- Whatever the order of the members, the space and the nested objects, the readers find what the object
says if and only if its layout is the one that they look for. -/
theorem authorization_read_iff (authorization : Authorization) (sizes : OutputSizes)
    (fits : ValuesFit authorization.values sizes) :
    ReadAsWritten authorization.json authorization.values sizes ↔
      PlainLayout authorization.json authorization.values := by
  obtain ⟨status, url, token, challengeStatus⟩ := fits
  have extract := @extractDns01Challenge_iff authorization.json authorization.values.challenge sizes.url
    sizes.token sizes.status (url.mono (min_le_left _ _)) (token.mono (min_le_left _ _))
    (challengeStatus.mono (min_le_left _ _))
  have internal := @extractDns01Challenge_iff authorization.json authorization.values.challenge
    acmeUrlMaxLength (acmeChallengeTokenMaxLength + 1) sizes.challengeStatus (url.mono (min_le_right _ _))
    (token.mono (min_le_right _ _)) (challengeStatus.mono (min_le_right _ _))
  have member := @extractJsonString_iff authorization.json (ascii "status") authorization.values.status
    sizes.authorizationStatus (by decide) status
  constructor
  · rintro ⟨parse, found⟩
    refine ⟨?_, extract.mp found⟩
    rw [parseAuthorizationStatus] at parse
    split at parse
    · cases parse
    next first search =>
      split at parse
      · cases parse
      · obtain ⟨same, -⟩ := AuthorizationStatus.mk.inj (Except.ok.inj parse)
        exact member.mp (same ▸ search)
  · rintro ⟨first, challenge⟩
    refine ⟨?_, extract.mpr challenge⟩
    rw [parseAuthorizationStatus, member.mpr first, internal.mpr challenge]

def compact {α : Type} (value : α) : Spaced α := ⟨[], value, []⟩

def textMember (name value : String) : Spaced Bytes × Spaced Json :=
  (compact (ascii name), compact (.string (ascii value)))

def dns01Values : Dns01Challenge := ⟨ascii "https://ca.example/c/1", ascii "abc", ascii "valid"⟩

def deactivatedValues : AuthorizationValues := ⟨ascii "deactivated", dns01Values⟩

def identifierMember : Spaced Bytes × Spaced Json :=
  (compact (ascii "identifier"),
    compact (.object [] [textMember "type" "dns", textMember "value" "a.example"]))

def challengesMember : Spaced Bytes × Spaced Json :=
  (compact (ascii "challenges"), compact (.array [] [compact (.object [] [textMember "type" "dns-01",
    textMember "status" "valid", textMember "url" "https://ca.example/c/1", textMember "token" "abc"])]))

def statusMember : Spaced Bytes × Spaced Json := textMember "status" "deactivated"

theorem isAuthorization_of_order {members : List (Spaced Bytes × Spaced Json)}
    (order : members = [identifierMember, challengesMember, statusMember] ∨
      members = [statusMember, identifierMember, challengesMember]) :
    IsAuthorization (compact (.object [] members)) deactivatedValues := by
  obtain rfl | rfl := order
  · exact ⟨rfl, by decide +kernel, rfl, _, _, _, rfl, rfl, rfl, rfl, rfl⟩
  · exact ⟨rfl, by decide +kernel, rfl, _, _, _, rfl, rfl, rfl, rfl, rfl⟩

def statusLast : Authorization :=
  ⟨compact (.object [] [identifierMember, challengesMember, statusMember]), deactivatedValues,
    isAuthorization_of_order (.inl rfl)⟩

def statusFirst : Authorization :=
  ⟨compact (.object [] [statusMember, identifierMember, challengesMember]), deactivatedValues,
    isAuthorization_of_order (.inr rfl)⟩

def callerSizes : OutputSizes := ⟨acmeUrlMaxLength, acmeChallengeTokenMaxLength + 1, 24, 24, 24⟩

theorem deactivatedValues_fit : ValuesFit deactivatedValues callerSizes where
  status := ⟨by decide, by decide +kernel, by decide⟩
  url := ⟨by decide, by decide +kernel, by decide⟩
  token := ⟨by decide, by decide +kernel, by decide⟩
  challengeStatus := ⟨by decide, by decide +kernel, by decide⟩

/-- A deactivated authorization is read as a valid one, which is what its challenge is. -/
theorem status_after_challenges_misread :
    parseAuthorizationStatus statusLast.json 24 24 = .ok ⟨ascii "valid", ascii "valid"⟩ ∧
      ValuesFit statusLast.values callerSizes ∧
      ¬ReadAsWritten statusLast.json statusLast.values callerSizes := by
  have misread : parseAuthorizationStatus statusLast.json 24 24 = .ok ⟨ascii "valid", ascii "valid"⟩ := by
    decide +kernel
  refine ⟨misread, deactivatedValues_fit, fun read => ?_⟩
  have parsed := read.parse
  rw [callerSizes, misread] at parsed
  revert parsed
  decide +kernel

theorem status_before_challenges_read :
    ReadAsWritten statusFirst.json statusFirst.values callerSizes ∧
      PlainLayout statusFirst.json statusFirst.values := by
  have read : ReadAsWritten statusFirst.json statusFirst.values callerSizes :=
    ⟨by decide +kernel, by decide +kernel⟩
  exact ⟨read, (authorization_read_iff statusFirst callerSizes deactivatedValues_fit).mp read⟩

end NtsTimeServer.Proof
