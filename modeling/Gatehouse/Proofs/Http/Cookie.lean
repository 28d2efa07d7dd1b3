import Gatehouse.Settings.Audit
import Gatehouse.Proofs.Http.Listing

/-!
# Cookies that come back

A session is announced by a cookie of the name that the settings give, and the client sends back
what stands before the first semicolon of it. The settings may give any name that is not blank. A
legal one is announced, and the session is found again just if the name is one that a reader of
cookies can come upon (`Cookie.session?_of_announced`).
-/

namespace Gatehouse

/-! ## Characters of header values -/

namespace HeaderValue

variable {c : Char}

theorem isLegalChar_of_readable (readable : isReadableChar c = true) : isLegalChar c = true := by
  simp only [isReadableChar, Bool.or_eq_true, Bool.and_eq_true, decide_eq_true_eq] at readable
  rcases readable with ⟨low, high⟩ | rfl
  · have legal : 0x20 ≤ c.toNat ∧ c.toNat ≠ 0x7F := by omega
    simp [isLegalChar, legal]
  · decide

theorem isReadableChar_of_plain (plain : c.isAlphanum ∨ c = '-' ∨ c = '_') :
    isReadableChar c = true := by
  have bounds := Link.toNat_of_plain plain
  have readable : 0x20 ≤ c.toNat ∧ c.toNat ≤ 0x7E := by omega
  simp [isReadableChar, readable]

theorem isLegalText_append (s t : String) :
    isLegalText (s ++ t) = (isLegalText s && isLegalText t) := by
  rw [isLegalText, String.toList_append, List.all_append]
  rfl

theorem isLegalText_of_readable {s : String} (readable : ∀ c ∈ s.toList, isReadableChar c = true) :
    isLegalText s = true :=
  List.all_eq_true.2 fun c h => isLegalChar_of_readable (readable c h)

end HeaderValue

namespace Cookie

/-! ## Announcements -/

variable {name : String} {id : SessionId} {block : Block}

theorem isLegalText_announcement (name : String) (id : SessionId) :
    HeaderValue.isLegalText (announcement name id) =
      (HeaderValue.isLegalText name && HeaderValue.isLegalText id.text) := by
  have shape : announcement name id =
      name ++ "=" ++ id.text ++ "; Path=/; HttpOnly; SameSite=Lax" := rfl
  have sign : HeaderValue.isLegalText "=" = true := by decide
  have attributes : HeaderValue.isLegalText "; Path=/; HttpOnly; SameSite=Lax" = true := by decide
  simp only [shape, HeaderValue.isLegalText_append, sign, attributes, Bool.and_true]

theorem announce?_eq (name : String) (block : Block) :
    announce? name (.ofBlock block) =
      if HeaderValue.isLegalText name then some (announcement name (.ofBlock block)) else none := by
  have token : HeaderValue.isLegalText (SessionId.ofBlock block).text = true :=
    HeaderValue.isLegalText_of_readable fun c h =>
      HeaderValue.isReadableChar_of_plain (Link.plain_token block c h)
  rw [announce?, isLegalText_announcement, token, Bool.and_true]

/-- What a client sends back of a cookie. -/
def pair (announced : String) : String := String.ofList (Text.cut ';' announced.toList).1

/-! ## Names -/

theorem readable_of_mem_readAll {headers : List (List UInt8)} {cookie : List Char × List Char}
    (found : cookie ∈ readAll headers) : Readable cookie.1 := by
  obtain ⟨written, rfl⟩ := exists_headers headers
  rw [Header.readAll_bytes] at found
  obtain ⟨listed, -, rfl⟩ := List.mem_map.1 found
  exact listed.readable

theorem readable_of_session? {headers : List (List UInt8)} (found : session? headers name = some id) :
    Readable name.toList := by
  obtain ⟨cookie, first, -⟩ := Option.map_eq_some_iff.1 found
  have named := List.find?_some first
  rw [← (of_decide_eq_true named).1]
  exact readable_of_mem_readAll (List.mem_of_find?_eq_some first)

theorem accepted_iff :
    (∃ s : Settings, s.faults = [] ∧ s.session.cookieName = name) ↔ Text.trim name ≠ "" := by
  constructor
  · rintro ⟨s, faultless, rfl⟩ blank
    simp [Settings.faults, Settings.limitFaults, Settings.faultIf, blank] at faultless
  · intro named
    refine ⟨{ session := { cookieName := name } }, ?_, rfl⟩
    have limits : ({ session := { cookieName := name } } : Settings).limitFaults = [] := by
      simp [Settings.limitFaults, Settings.faultIf, named]
    have addresses : ({} : Settings).addressFaults = [] := by decide
    show ({} : Settings).addressFaults ++ _ ++ [] ++ [] ++ [] = []
    rw [addresses, limits]
    rfl

/-! ## The way back -/

theorem token_ne_empty (block : Block) : block.token ≠ "" := by
  rw [ne_eq, ← String.toList_eq_nil_iff, Block.token, Text.upperHex, String.toList_ofList]
  cases bytes : block.toList with
  | nil => simp at bytes
  | cons b rest => simp [Text.hexPair]

theorem not_blank_of_plain {c : Char} (plain : c.isAlphanum ∨ c = '-' ∨ c = '_') :
    Text.isBlank c = false := by
  have bounds := Link.toNat_of_plain plain
  simp only [Text.isBlank, Bool.or_eq_false_iff, Bool.and_eq_false_iff, decide_eq_false_iff_not,
    beq_eq_false_iff_ne]
  omega

/-- A name and a token are a cookie that a header can list. -/
def listedOf (readable : Readable name.toList) (block : Block) : Listed where
  name := name.toList
  value := block.token.toList
  readable := readable
  plain c h := ⟨HeaderValue.isReadableChar_of_plain (Link.plain_token block c h),
    fun same => Link.not_mem_of_plain (Link.plain_token block) (by simp) (same ▸ h)⟩
  trimmed c h := not_blank_of_plain (Link.plain_token block c (List.mem_of_getLast? h))

theorem pair_announcement (readable : Readable name.toList) (block : Block) :
    (pair (announcement name (.ofBlock block))).toList =
      name.toList ++ '=' :: block.token.toList := by
  have shape : (announcement name (.ofBlock block)).toList =
      (name.toList ++ '=' :: block.token.toList) ++
        ';' :: " Path=/; HttpOnly; SameSite=Lax".toList := by
    rw [show announcement name (.ofBlock block) =
      name ++ "=" ++ block.token ++ "; Path=/; HttpOnly; SameSite=Lax" from rfl]
    simp only [String.toList_append]
    rw [List.append_assoc, List.append_assoc, List.append_assoc]
    rfl
  have noMark : ';' ∉ name.toList ++ '=' :: block.token.toList := fun h =>
    ((listedOf readable block).plain_text _ h).2 rfl
  rw [pair, shape, Text.cut_append noMark, String.toList_ofList]

theorem session?_pair (readable : Readable name.toList) (block : Block) :
    session? [Text.utf8 (pair (announcement name (.ofBlock block)))] name =
      some (.ofBlock block) := by
  let header : Header := .pieces (.cookie [] (listedOf readable block) [] nofun) []
  have sent : Text.utf8 (pair (announcement name (.ofBlock block))) = header.bytes := by
    rw [Text.utf8, pair_announcement readable]
    simp [header, Header.bytes, Header.textOf, Piece.text, Listed.text, listedOf]
  have all : readAll [header.bytes] = [(name.toList, block.token.toList)] :=
    Header.readAll_bytes [header]
  rw [session?, sent, all, List.find?_cons_of_pos (by simp [token_ne_empty])]
  simp [SessionId.ofBlock]

/-- **A session that is announced is found again just if its name can be come upon.** The settings
may give any name that is not blank, also one that no header will ever be read to hold. -/
theorem session?_of_announced (name : String) (block : Block) :
    ((∃ s : Settings, s.faults = [] ∧ s.session.cookieName = name) ↔ Text.trim name ≠ "") ∧
      ((announce? name (.ofBlock block)).isSome ↔ HeaderValue.isLegalText name = true) ∧
      ((∃ announced, announce? name (.ofBlock block) = some announced ∧
          session? [Text.utf8 (pair announced)] name = some (.ofBlock block)) ↔
        Readable name.toList) ∧
      ((∃ headers id, session? headers name = some id) ↔ Readable name.toList) := by
  have back (readable : Readable name.toList) :
      announce? name (.ofBlock block) = some (announcement name (.ofBlock block)) ∧
        session? [Text.utf8 (pair (announcement name (.ofBlock block)))] name =
          some (.ofBlock block) := by
    refine ⟨?_, session?_pair readable block⟩
    rw [announce?_eq, if_pos]
    exact HeaderValue.isLegalText_of_readable fun c h => (readable.1 c h).1
  refine ⟨accepted_iff, ?_, ⟨?_, fun readable => ⟨_, back readable⟩⟩,
    ⟨?_, fun readable => ⟨_, _, (back readable).2⟩⟩⟩
  · rw [announce?_eq]
    split
    · simp [*]
    · simp [*]
  · rintro ⟨announced, -, found⟩
    exact readable_of_session? found
  · rintro ⟨headers, id, found⟩
    exact readable_of_session? found

example : Readable "SESSIONID".toList ∧ ¬ Readable "S=D".toList := by decide

/-- The settings may give a name with a blank before it. Nothing is found under it, whatever the
client sends back. -/
theorem leading_blank_not_found :
    let block : Block := .replicate 16 7
    let settings : Settings := { session := { cookieName := " SID" } }
    settings.faults = [] ∧
      announce? " SID" (.ofBlock block) =
        some (" SID=" ++ block.token ++ "; Path=/; HttpOnly; SameSite=Lax") ∧
      pair (announcement " SID" (.ofBlock block)) = " SID=" ++ block.token ∧
      session? [Text.utf8 (" SID=" ++ block.token)] " SID" = none := by
  intro block settings
  exact ⟨by decide, by decide, by decide, by decide⟩

end Cookie

end Gatehouse
