import Courier.Frame.Wire
import Mathlib.Order.WellFounded

/-! # The grammar of messages

A message that is not empty must keep six rules, which are checked in the order of their ranks. Messages
that keep all of them are decoded, and every other one is refused with the fault of the first rule it
breaks. The rules speak of the bytes at their offsets only.
-/

namespace Courier.Frame

variable {bytes : Bytes}

/-- The payload size that bytes 44 to 47 declare, lowest byte first. -/
def declaredSize (bytes : Bytes) : Nat :=
  (bytes.getD 44 0).toNat + 256 * (bytes.getD 45 0).toNat + 65536 * (bytes.getD 46 0).toNat
    + 16777216 * (bytes.getD 47 0).toNat

def providerBytes (bytes : Bytes) : Bytes :=
  ((bytes.drop 4).take 32).takeWhile (· != 0)

inductive Rule where
  | complete
  | magic
  | version
  | kind
  | provider
  | length
deriving DecidableEq

namespace Rule

def Holds (bytes : Bytes) : Rule → Prop
  | complete => 48 ≤ bytes.length
  | magic => bytes[0]? = some 0x41 ∧ bytes[1]? = some 0x43
  | version => bytes[2]? = some 1
  | kind => ∃ tag, bytes[3]? = some tag ∧ tag.toNat ≤ 3
  | provider => ∃ text, Text.utf8 text = providerBytes bytes
  | length => declaredSize bytes = bytes.length - 48

/-- The error of a message that breaks the rule and keeps those of lower rank. -/
def fault (bytes : Bytes) : Rule → Error
  | complete => .truncated bytes.length 48
  | magic => .invalidMagic
  | version => .unsupportedVersion (bytes.getD 2 0)
  | kind => .unknownKind (bytes.getD 3 0)
  | provider => .invalidProvider "provider id is not UTF-8"
  | length => .lengthMismatch (declaredSize bytes) (bytes.length - 48)

def rank : Rule → Nat
  | complete => 0
  | magic => 1
  | version => 2
  | kind => 3
  | provider => 4
  | length => 5

theorem rank_injective {left right : Rule} (h : left.rank = right.rank) : left = right := by
  revert h
  cases left <;> cases right <;> decide

structure FirstBroken (bytes : Bytes) (rule : Rule) : Prop where
  broken : ¬ rule.Holds bytes
  earlier : ∀ other : Rule, other.rank < rule.rank → other.Holds bytes

theorem FirstBroken.unique {left right : Rule} (hleft : FirstBroken bytes left)
    (hright : FirstBroken bytes right) : left = right := by
  apply rank_injective
  rcases Nat.lt_trichotomy left.rank right.rank with hlt | heq | hgt
  · exact absurd (hright.earlier left hlt) hleft.broken
  · exact heq
  · exact absurd (hleft.earlier right hgt) hright.broken

theorem holds_or_firstBroken (bytes : Bytes) :
    (∀ rule : Rule, rule.Holds bytes) ∨ ∃ rule, FirstBroken bytes rule := by
  by_cases hall : ∀ rule : Rule, rule.Holds bytes
  · exact .inl hall
  · obtain ⟨some, hsome⟩ := not_forall.1 hall
    obtain ⟨rule, hbroken, hleast⟩ :=
      (measure rank).wf.has_min {rule | ¬ rule.Holds bytes} ⟨some, hsome⟩
    refine .inr ⟨rule, hbroken, ?_⟩
    intro other hlower
    by_contra hother
    exact hleast other hother hlower

theorem isDecoding_fault (bytes : Bytes) (rule : Rule) : (rule.fault bytes).isDecoding = true := by
  cases rule <;> rfl

end Rule

theorem getElem?_eq_some_iff_getD {offset : Nat} {byte : UInt8} (h : offset < bytes.length) :
    bytes[offset]? = some byte ↔ bytes.getD offset 0 = byte := by
  rw [List.getD_eq_getElem?_getD, List.getElem?_eq_getElem h, Option.some_inj, Option.getD_some]

theorem slice_eq_magic_iff :
    bytes.slice 0 2 = magic ↔ bytes[0]? = some 0x41 ∧ bytes[1]? = some 0x43 := by
  rcases bytes with _ | ⟨first, _ | ⟨second, rest⟩⟩ <;> simp [Bytes.slice, magic]

theorem ofLittleEndian_slice_size (h : 48 ≤ bytes.length) :
    Bytes.ofLittleEndian (bytes.slice 44 4) = declaredSize bytes := by
  have hbyte (offset : Nat) : bytes.getD (44 + offset) 0 = (bytes.drop 44).getD offset 0 := by
    rw [List.getD_eq_getElem?_getD, List.getD_eq_getElem?_getD, List.getElem?_drop]
  have hlong : 4 ≤ (bytes.drop 44).length := by
    rw [List.length_drop]
    omega
  rw [declaredSize, hbyte 0, hbyte 1, hbyte 2, hbyte 3, Bytes.slice]
  obtain ⟨first, second, third, fourth, rest, hdrop⟩ :
      ∃ first second third fourth rest,
        bytes.drop 44 = first :: second :: third :: fourth :: rest := by
    rcases hdrop : bytes.drop 44 with _ | ⟨first, _ | ⟨second, _ | ⟨third, _ | ⟨fourth, rest⟩⟩⟩⟩
    case cons.cons.cons.cons => exact ⟨first, second, third, fourth, rest, rfl⟩
    all_goals simp [hdrop] at hlong
  simp only [hdrop, List.take_succ_cons, List.take_zero, Bytes.ofLittleEndian, List.getD_cons_zero,
    List.getD_cons_succ]
  omega

theorem ofTag?_isSome_iff {tag : UInt8} : (∃ kind, Kind.ofTag? tag = some kind) ↔ tag.toNat ≤ 3 := by
  simp only [Kind.ofTag?_eq_some_iff]
  constructor
  · rintro ⟨kind, rfl⟩
    cases kind <;> decide
  · intro hsmall
    have hcases : tag = 0 ∨ tag = 1 ∨ tag = 2 ∨ tag = 3 := by
      simp only [← UInt8.toNat_inj]
      simp
      omega
    rcases hcases with rfl | rfl | rfl | rfl
    · exact ⟨.log, rfl⟩
    · exact ⟨.segment, rfl⟩
    · exact ⟨.yaml, rfl⟩
    · exact ⟨.command, rfl⟩

structure Header.ReadFrom (bytes : Bytes) (header : Header) : Prop where
  provider : Text.utf8 header.provider = providerBytes bytes
  answerId : header.answerId.toNat = Bytes.ofLittleEndian ((bytes.drop 36).take 8)
  kind : bytes[3]? = some header.kind.tag
  payloadSize : header.payloadSize = declaredSize bytes

section Rules

variable (hcomplete : Rule.complete.Holds bytes)

include hcomplete

theorem shorterThan_headerSize : bytes.shorterThan headerSize = false :=
  (Bytes.shorterThan_eq_false_iff _ _).2 hcomplete

theorem getD_version_iff : bytes.getD 2 0 = version ↔ Rule.version.Holds bytes :=
  (getElem?_eq_some_iff_getD (Nat.lt_of_lt_of_le (by decide) hcomplete)).symm

theorem readKind_of_holds (hkind : Rule.kind.Holds bytes) :
    ∃ kind, readKind (bytes.getD 3 0) = .ok kind ∧ bytes[3]? = some kind.tag := by
  obtain ⟨tag, htag, hsmall⟩ := hkind
  obtain ⟨kind, hkind⟩ := ofTag?_isSome_iff.2 hsmall
  obtain rfl := Kind.ofTag?_eq_some_iff.1 hkind
  have hbyte := (getElem?_eq_some_iff_getD (Nat.lt_of_lt_of_le (by decide) hcomplete)).1 htag
  refine ⟨kind, ?_, htag⟩
  rw [readKind, hbyte, hkind]

theorem readKind_of_broken (hkind : ¬ Rule.kind.Holds bytes) :
    readKind (bytes.getD 3 0) = .error (.unknownKind (bytes.getD 3 0)) := by
  cases htag : Kind.ofTag? (bytes.getD 3 0) with
  | none => rw [readKind, htag]
  | some kind =>
    have hbyte : bytes[3]? = some (bytes.getD 3 0) :=
      (getElem?_eq_some_iff_getD (Nat.lt_of_lt_of_le (by decide) hcomplete)).2 rfl
    exact absurd ⟨_, hbyte, ofTag?_isSome_iff.1 ⟨kind, htag⟩⟩ hkind

end Rules

theorem readProvider?_eq_some_iff {text : String} :
    readProvider? (bytes.slice 4 providerSize) = some text ↔ Text.utf8 text = providerBytes bytes :=
  Text.ofUtf8?_eq_some_iff

theorem readProvider?_of_broken (h : ¬ Rule.provider.Holds bytes) :
    readProvider? (bytes.slice 4 providerSize) = none := by
  cases hread : readProvider? (bytes.slice 4 providerSize) with
  | none => rfl
  | some text => exact absurd ⟨text, readProvider?_eq_some_iff.1 hread⟩ h

/-- What is left of a header whose first three rules hold. -/
theorem parseHeader_of_version (hcomplete : Rule.complete.Holds bytes)
    (hmagic : Rule.magic.Holds bytes) (hversion : Rule.version.Holds bytes) :
    parseHeader bytes =
      (readKind (bytes.getD 3 0)).bind fun kind =>
        (readProvider? (bytes.slice 4 providerSize)).elim
          (.error (.invalidProvider "provider id is not UTF-8"))
          fun provider => .ok
            ⟨provider, UInt64.ofNat (Bytes.ofLittleEndian (bytes.slice 36 8)), kind,
              Bytes.ofLittleEndian (bytes.slice 44 4)⟩ := by
  have hmagic := slice_eq_magic_iff.2 hmagic
  have hversion := (getD_version_iff hcomplete).2 hversion
  rw [parseHeader, shorterThan_headerSize hcomplete, if_neg Bool.false_ne_true,
    if_neg (not_not.2 hmagic), if_neg (not_not.2 hversion)]
  cases readKind (bytes.getD 3 0) with
  | error error => rfl
  | ok kind => cases readProvider? (bytes.slice 4 providerSize) <;> rfl

/-- The length rule is about the whole message; a header is refused for the other five only. -/
theorem parseHeader_of_firstBroken {rule : Rule} (h : rule.FirstBroken bytes) (hrule : rule ≠ .length) :
    parseHeader bytes = .error (rule.fault bytes) := by
  obtain ⟨hbroken, hearlier⟩ := h
  cases rule with
  | complete =>
    have hshort : bytes.shorterThan headerSize = true :=
      (Bytes.shorterThan_iff _ _).2 (Nat.not_le.1 hbroken)
    rw [parseHeader, if_pos hshort]
    rfl
  | magic =>
    have hcomplete := hearlier .complete (by decide)
    have hmagic : bytes.slice 0 2 ≠ magic := fun heq => hbroken (slice_eq_magic_iff.1 heq)
    rw [parseHeader, shorterThan_headerSize hcomplete, if_neg Bool.false_ne_true, if_pos hmagic]
    rfl
  | version =>
    have hcomplete := hearlier .complete (by decide)
    have hmagic := slice_eq_magic_iff.2 (hearlier .magic (by decide))
    have hversion : bytes.getD 2 0 ≠ version := fun heq =>
      hbroken ((getD_version_iff hcomplete).1 heq)
    rw [parseHeader, shorterThan_headerSize hcomplete, if_neg Bool.false_ne_true,
      if_neg (not_not.2 hmagic), if_pos hversion]
    rfl
  | kind =>
    have hcomplete := hearlier .complete (by decide)
    rw [parseHeader_of_version hcomplete (hearlier .magic (by decide))
      (hearlier .version (by decide)), readKind_of_broken hcomplete hbroken]
    rfl
  | provider =>
    have hcomplete := hearlier .complete (by decide)
    obtain ⟨kind, hkind, -⟩ := readKind_of_holds hcomplete (hearlier .kind (by decide))
    rw [parseHeader_of_version hcomplete (hearlier .magic (by decide))
      (hearlier .version (by decide)), hkind, readProvider?_of_broken hbroken]
    rfl
  | length => exact absurd rfl hrule

theorem parseHeader_of_holds (h : ∀ rule : Rule, rule ≠ .length → rule.Holds bytes) :
    ∃ header, parseHeader bytes = .ok header ∧ header.ReadFrom bytes := by
  have hcomplete := h .complete (by decide)
  obtain ⟨kind, hkind, htag⟩ := readKind_of_holds hcomplete (h .kind (by decide))
  obtain ⟨provider, hprovider⟩ := h .provider (by decide)
  have hread := readProvider?_eq_some_iff.2 hprovider
  have hheader := parseHeader_of_version hcomplete (h .magic (by decide)) (h .version (by decide))
  rw [hkind, hread] at hheader
  refine ⟨_, hheader, hprovider, ?_, htag, ofLittleEndian_slice_size hcomplete⟩
  have hwidth : (bytes.slice 36 8).length = 8 := by
    rw [Bytes.slice, List.length_take, List.length_drop]
    exact Nat.min_eq_left (Nat.le_sub_of_add_le (Nat.le_trans (by decide) hcomplete))
  have hfits := Bytes.ofLittleEndian_lt (bytes.slice 36 8)
  rw [hwidth] at hfits
  exact UInt64.toNat_ofNat_of_lt hfits

structure View.ReadFrom (bytes : Bytes) (view : View) : Prop where
  provider : Text.utf8 view.provider = providerBytes bytes
  answerId : view.answerId.toNat = Bytes.ofLittleEndian ((bytes.drop 36).take 8)
  kind : bytes[3]? = view.kind.map Kind.tag
  payload : view.payload = bytes.drop 48

theorem decode_of_parseHeader_error {error : Error} (hne : bytes ≠ [])
    (h : parseHeader bytes = .error error) : decode bytes = .error error := by
  rw [decode, List.isEmpty_eq_false_iff.2 hne, if_neg Bool.false_ne_true, h]

theorem decode_of_parseHeader_ok {header : Header} (hne : bytes ≠ [])
    (h : parseHeader bytes = .ok header) :
    decode bytes =
      if header.payloadSize = bytes.length - 48 then .ok (header.frame (bytes.drop 48)).view
      else .error (.lengthMismatch header.payloadSize (bytes.length - 48)) := by
  rw [decode, List.isEmpty_eq_false_iff.2 hne, if_neg Bool.false_ne_true, h]
  simp only [ne_eq, ite_not, List.length_drop, headerSize]

theorem decode_of_holds (hne : bytes ≠ []) (h : ∀ rule : Rule, rule.Holds bytes) :
    ∃ view, decode bytes = .ok view ∧ view.ReadFrom bytes := by
  obtain ⟨header, hheader, hread⟩ := parseHeader_of_holds fun rule _ => h rule
  have hsize : header.payloadSize = bytes.length - 48 := hread.payloadSize.trans (h .length)
  refine ⟨(header.frame (bytes.drop 48)).view, ?_, hread.provider, hread.answerId, hread.kind, rfl⟩
  rw [decode_of_parseHeader_ok hne hheader, if_pos hsize]

theorem decode_of_firstBroken (hne : bytes ≠ []) {rule : Rule} (h : rule.FirstBroken bytes) :
    decode bytes = .error (rule.fault bytes) := by
  by_cases hrule : rule = .length
  · subst hrule
    have hrest (other : Rule) (hother : other ≠ .length) : other.Holds bytes :=
      h.earlier other (by revert hother; cases other <;> decide)
    obtain ⟨header, hheader, hread⟩ := parseHeader_of_holds hrest
    have hsize : ¬ header.payloadSize = bytes.length - 48 := by
      rw [hread.payloadSize]
      exact h.broken
    rw [decode_of_parseHeader_ok hne hheader, if_neg hsize, hread.payloadSize]
    rfl
  · exact decode_of_parseHeader_error hne (parseHeader_of_firstBroken h hrule)

theorem decode_eq_error_iff (hne : bytes ≠ []) {error : Error} :
    decode bytes = .error error ↔
      ∃ rule : Rule, rule.FirstBroken bytes ∧ error = rule.fault bytes := by
  constructor
  · intro herror
    rcases Rule.holds_or_firstBroken bytes with hall | ⟨rule, hrule⟩
    · obtain ⟨view, hview, -⟩ := decode_of_holds hne hall
      rw [hview] at herror
      cases herror
    · rw [decode_of_firstBroken hne hrule] at herror
      exact ⟨rule, hrule, (Except.error.inj herror).symm⟩
  · rintro ⟨rule, hrule, rfl⟩
    exact decode_of_firstBroken hne hrule

theorem holds_of_decode {view : View} (hne : bytes ≠ []) (h : decode bytes = .ok view) (rule : Rule) :
    rule.Holds bytes := by
  rcases Rule.holds_or_firstBroken bytes with hall | ⟨broken, hbroken⟩
  · exact hall rule
  · rw [decode_of_firstBroken hne hbroken] at h
    cases h

theorem isDecoding_of_decode {error : Error} (h : decode bytes = .error error) :
    error.isDecoding = true := by
  by_cases hne : bytes = []
  · subst hne
    cases h
  · obtain ⟨rule, -, rfl⟩ := (decode_eq_error_iff hne).1 h
    exact Rule.isDecoding_fault bytes rule

theorem isDecoding_of_parseHeader {error : Error} (h : parseHeader bytes = .error error) :
    error.isDecoding = true := by
  by_cases hne : bytes = []
  · subst hne
    cases h
    rfl
  · exact isDecoding_of_decode (decode_of_parseHeader_error hne h)

/-- The empty message is the empty view. Any other message is decoded exactly when it keeps every rule, to
the view that its bytes spell, and otherwise refused with the fault of the first rule that it breaks,
which is a fault of decoding. -/
theorem decode_follows_rules (bytes : Bytes) :
    decode [] = .ok ⟨"", 0, none, []⟩ ∧
      (bytes ≠ [] →
        ((∃ view, decode bytes = .ok view) ↔ ∀ rule : Rule, rule.Holds bytes) ∧
          (∀ view, decode bytes = .ok view → view.ReadFrom bytes) ∧
          ∀ error, decode bytes = .error error ↔
            ∃ rule : Rule, rule.FirstBroken bytes ∧ error = rule.fault bytes) ∧
      ∀ error, decode bytes = .error error → error.isDecoding = true := by
  refine ⟨rfl, ?_, fun error => isDecoding_of_decode⟩
  intro hne
  refine ⟨⟨?_, ?_⟩, ?_, fun error => decode_eq_error_iff hne⟩
  · rintro ⟨view, hview⟩
    exact holds_of_decode hne hview
  · intro hall
    obtain ⟨view, hview, -⟩ := decode_of_holds hne hall
    exact ⟨view, hview⟩
  · intro view hview
    obtain ⟨read, hread, hfrom⟩ := decode_of_holds hne (holds_of_decode hne hview)
    rw [hview] at hread
    exact Except.ok.inj hread ▸ hfrom

/-- A log frame with bytes left in its provider field after the NUL, and a header that breaks both the
version and the kind rule. -/
theorem decode_follows_rules_of_padded_and_outdated :
    let padded : Bytes := [0x41, 0x43, 1, 0, 0x61, 0, 0xFF] ++ List.replicate 37 0 ++ [1, 0, 0, 0, 7]
    let outdated : Bytes := [0x41, 0x43, 2, 9] ++ List.replicate 44 0
    (padded ≠ [] ∧ ∃ view, decode padded = .ok view ∧ view.ReadFrom padded) ∧
      outdated ≠ [] ∧ decode outdated = .error (.unsupportedVersion 2) ∧
        (Error.unsupportedVersion 2).isDecoding = true := by
  intro padded outdated
  have hpadded : padded ≠ [] := by decide
  have houtdated : outdated ≠ [] := by decide
  obtain ⟨haccept, hread, -⟩ := (decode_follows_rules padded).2.1 hpadded
  have hall (rule : Rule) : rule.Holds padded := by
    cases rule with
    | complete => exact (by decide : 48 ≤ padded.length)
    | magic => exact (by decide : padded[0]? = some 0x41 ∧ padded[1]? = some 0x43)
    | version => exact (by decide : padded[2]? = some 1)
    | kind => exact ⟨0, by decide, by decide⟩
    | provider => exact ⟨"a", by decide⟩
    | length => exact (by decide : declaredSize padded = padded.length - 48)
  have hbroken : Rule.version.FirstBroken outdated := by
    refine ⟨(by decide : ¬ outdated[2]? = some 1), ?_⟩
    intro other hlower
    cases other with
    | complete => exact (by decide : 48 ≤ outdated.length)
    | magic => exact (by decide : outdated[0]? = some 0x41 ∧ outdated[1]? = some 0x43)
    | _ => exact absurd hlower (by decide)
  have hrefused : decode outdated = .error (.unsupportedVersion 2) :=
    ((decode_follows_rules outdated).2.1 houtdated).2.2 _ |>.2 ⟨_, hbroken, by decide⟩
  obtain ⟨view, hview⟩ := haccept.2 hall
  exact ⟨⟨hpadded, view, hview, hread view hview⟩, houtdated, hrefused,
    (decode_follows_rules outdated).2.2 _ hrefused⟩

end Courier.Frame
