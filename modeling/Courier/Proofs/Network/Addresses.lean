import Courier.Proofs.Network.Passage
import Courier.Proofs.Text.Numerals
import Courier.Transport.Basic
import Mathlib.Data.List.TakeWhile

/-! # Addresses that are accepted

A text is an address exactly if its last colon stands between a host that is not empty and a numeral from 1 to
65535. Any other text is refused for the first thing that is wrong with it, and a sender for an address that
is accepted has no connection yet (`accepted_exactly_with_usable_port`).
-/

namespace Courier.Network

variable {text host port : String} {fault : AddressFault}

/-- The last colon of a text stands between these two parts. -/
structure LastColon (text host port : String) : Prop where
  joined : text = host ++ ":" ++ port
  last : ':' ∉ port.toList

theorem backwards_ne_colon {chars : List Char} (h : ':' ∉ chars) : ∀ c ∈ chars.reverse, (c != ':') = true := by
  intro c hc
  rw [bne_iff_ne]
  rintro rfl
  exact h (List.mem_reverse.1 hc)

theorem parts?_of_lastColon (h : LastColon text host port) : Address.parts? text = some (host, port) := by
  obtain ⟨rfl, hlast⟩ := h
  have hport := backwards_ne_colon hlast
  have hbackwards : (host ++ ":" ++ port).toList.reverse
      = port.toList.reverse ++ ':' :: host.toList.reverse := by
    simp
  rw [Address.parts?]
  simp only [hbackwards, List.dropWhile_append_of_pos hport, List.takeWhile_append_of_pos hport]
  simp

theorem exists_lastColon (h : ':' ∈ text.toList) : ∃ host port, LastColon text host port := by
  obtain ⟨after, before, hsplit, hafter⟩ := List.eq_append_cons_of_mem (List.mem_reverse.2 h)
  refine ⟨String.ofList before.reverse, String.ofList after.reverse, ⟨?_, ?_⟩⟩
  · have hchars := congrArg List.reverse hsplit
    rw [List.reverse_reverse] at hchars
    apply String.toList_injective
    simp [hchars]
  · simpa using hafter

theorem parts?_of_notMem (h : ':' ∉ text.toList) : Address.parts? text = none := by
  rw [Address.parts?]
  simp only [List.dropWhile_eq_nil_iff.2 (backwards_ne_colon h)]

inductive FirstFault : String → AddressFault → Prop
  | missingColon {text : String} (hcolon : ':' ∉ text.toList) : FirstFault text .missingColon
  | emptyHost {text port : String} (hparts : LastColon text "" port) : FirstFault text .emptyHost
  | invalidPort {text host port : String} {fault : Text.DecimalFault} (hparts : LastColon text host port)
      (hhost : host ≠ "") (hport : Text.Reads 65535 port.toList (.error fault)) :
      FirstFault text (.invalidPort port fault)
  | zeroPort {text host port : String} (hparts : LastColon text host port) (hhost : host ≠ "")
      (hport : Text.Numeral port.toList 0) : FirstFault text .zeroPort

/-- A text names a host and a port that can be used. -/
structure Names (text host port : String) (number : Nat) : Prop where
  parts : LastColon text host port
  host_ne_empty : host ≠ ""
  numeral : Text.Numeral port.toList number
  low : 1 ≤ number
  high : number ≤ 65535

theorem parse_of_missingColon (h : ':' ∉ text.toList) : Address.parse text = .error .missingColon := by
  rw [Address.parse, parts?_of_notMem h]

theorem parse_of_emptyHost (h : LastColon text "" port) : Address.parse text = .error .emptyHost := by
  rw [Address.parse, parts?_of_lastColon h]
  rfl

theorem parse_of_invalidPort {fault : Text.DecimalFault} (h : LastColon text host port) (hhost : host ≠ "")
    (hport : Text.readDecimalChars 65535 port.toList = .error fault) :
    Address.parse text = .error (.invalidPort port fault) := by
  rw [Address.parse, parts?_of_lastColon h]
  simp [hhost, Text.readDecimal, largestPort, hport]

theorem parse_of_zeroPort (h : LastColon text host port) (hhost : host ≠ "")
    (hport : Text.readDecimalChars 65535 port.toList = .ok 0) : Address.parse text = .error .zeroPort := by
  rw [Address.parse, parts?_of_lastColon h]
  simp [hhost, Text.readDecimal, largestPort, hport]

theorem parse_of_port {number : Nat} (h : LastColon text host port) (hhost : host ≠ "")
    (hport : Text.readDecimalChars 65535 port.toList = .ok number) (hlow : 1 ≤ number) :
    Address.parse text = .ok ⟨host, number⟩ := by
  rw [Address.parse, parts?_of_lastColon h]
  obtain ⟨less, rfl⟩ := Nat.exists_eq_succ_of_ne_zero (Nat.ne_of_gt hlow)
  simp [hhost, Text.readDecimal, largestPort, hport]

theorem parse_cases (text : String) :
    (∃ host port number, Names text host port number ∧ Address.parse text = .ok ⟨host, number⟩) ∨
      ∃ fault, FirstFault text fault ∧ Address.parse text = .error fault := by
  by_cases hcolon : ':' ∈ text.toList
  · obtain ⟨host, port, hparts⟩ := exists_lastColon hcolon
    by_cases hhost : host = ""
    · subst hhost
      exact .inr ⟨_, .emptyHost hparts, parse_of_emptyHost hparts⟩
    · cases hport : Text.readDecimalChars 65535 port.toList with
      | error fault =>
        exact .inr ⟨_, .invalidPort hparts hhost (Text.readDecimalChars_eq_iff.1 hport),
          parse_of_invalidPort hparts hhost hport⟩
      | ok number =>
        obtain ⟨hnumeral, hhigh⟩ := Text.readDecimalChars_eq_ok_iff.1 hport
        rcases Nat.eq_zero_or_pos number with rfl | hlow
        · exact .inr ⟨_, .zeroPort hparts hhost hnumeral, parse_of_zeroPort hparts hhost hport⟩
        · exact .inl ⟨host, port, number, ⟨hparts, hhost, hnumeral, hlow, hhigh⟩,
            parse_of_port hparts hhost hport hlow⟩
  · exact .inr ⟨_, .missingColon hcolon, parse_of_missingColon hcolon⟩

theorem Names.parse {number : Nat} (h : Names text host port number) :
    Address.parse text = .ok ⟨host, number⟩ :=
  parse_of_port h.parts h.host_ne_empty (Text.readDecimalChars_eq_ok_iff.2 ⟨h.numeral, h.high⟩) h.low

theorem FirstFault.parse (h : FirstFault text fault) : Address.parse text = .error fault := by
  cases h with
  | missingColon hcolon => exact parse_of_missingColon hcolon
  | emptyHost hparts => exact parse_of_emptyHost hparts
  | invalidPort hparts hhost hport =>
    exact parse_of_invalidPort hparts hhost (Text.readDecimalChars_eq_iff.2 hport)
  | zeroPort hparts hhost hport =>
    exact parse_of_zeroPort hparts hhost (Text.readDecimalChars_eq_ok_iff.2 ⟨hport, Nat.zero_le _⟩)

theorem parse_eq_error_iff : Address.parse text = .error fault ↔ FirstFault text fault := by
  refine ⟨fun hparse => ?_, FirstFault.parse⟩
  rcases parse_cases text with ⟨host, port, number, -, hok⟩ | ⟨found, hfirst, herror⟩
  · cases hok.symm.trans hparse
  · rwa [Except.error.inj (hparse.symm.trans herror)]

theorem Sender.open_of_address {address : Address} (h : Address.parse text = .ok address) (limit : Nat)
    (timeout : Option Span) : Sender.open text limit timeout = .ok { address := text, limit, timeout } := by
  rw [Sender.open, h]

theorem Sender.open_of_fault (h : Address.parse text = .error fault) (limit : Nat) (timeout : Option Span) :
    Sender.open text limit timeout = .error (.invalidAddress "net" text fault.message) := by
  rw [Sender.open, h]
  rfl

/-- A sender is had for a text exactly if its last colon stands between a host and the numeral of a port that
can be used. For any other text the first thing that is wrong with it is told. The sender has no connection,
and opening a port to its address leaves the host as it was. -/
theorem accepted_exactly_with_usable_port (text : String) (limit : Nat) (timeout : Option Span) :
    ((∃ sender, Sender.open text limit timeout = .ok sender) ↔
        ∃ host port number, text = host ++ ":" ++ port ∧ ':' ∉ port.toList ∧ host ≠ "" ∧
          Text.Numeral port.toList number ∧ 1 ≤ number ∧ number ≤ 65535) ∧
      (∀ error, Sender.open text limit timeout = .error error ↔
        ∃ fault, FirstFault text fault ∧ error = .invalidAddress "net" text fault.message) ∧
      ∀ sender, Sender.open text limit timeout = .ok sender →
        sender.address = text ∧ sender.isConnected = false ∧
          ∀ (host : Host) (port : Port), port.backend? = some .network → port.address = text →
            Transport.openSend host port ⟨limit, timeout⟩ = (.ok (.network sender), host) := by
  refine ⟨⟨?_, ?_⟩, fun error => ⟨fun hrefused => ?_, ?_⟩, fun sender hopen => ?_⟩
  · rintro ⟨sender, hopen⟩
    rcases parse_cases text with ⟨host, port, number, hnames, -⟩ | ⟨fault, -, herror⟩
    · exact ⟨host, port, number, hnames.parts.joined, hnames.parts.last, hnames.host_ne_empty,
        hnames.numeral, hnames.low, hnames.high⟩
    · cases (Sender.open_of_fault herror limit timeout).symm.trans hopen
  · rintro ⟨host, port, number, hjoined, hlast, hhost, hnumeral, hlow, hhigh⟩
    have hnames : Names text host port number := ⟨⟨hjoined, hlast⟩, hhost, hnumeral, hlow, hhigh⟩
    exact ⟨_, Sender.open_of_address hnames.parse limit timeout⟩
  · cases hparse : Address.parse text with
    | ok address => cases (Sender.open_of_address hparse limit timeout).symm.trans hrefused
    | error fault =>
      have hfault := (Sender.open_of_fault hparse limit timeout).symm.trans hrefused
      exact ⟨fault, parse_eq_error_iff.1 hparse, (Except.error.inj hfault).symm⟩
  · rintro ⟨fault, hfirst, rfl⟩
    exact Sender.open_of_fault hfirst.parse limit timeout
  · obtain ⟨hclosed, haddress, -⟩ := Sender.fields_of_open hopen
    refine ⟨haddress, by rw [Sender.isConnected, hclosed]; rfl, fun host port hbackend hport => ?_⟩
    rw [Transport.openSend, hbackend]
    simp [hport, hopen, Except.map]

/-- An address with colons in its host and zeros before its port, and a port that is too large before the
character that is no digit. -/
theorem accepted_exactly_with_usable_port_of_two :
    (∃ sender, Sender.open "[::1]:+00443" 9 none = .ok sender) ∧
      Sender.open "h:70000x" 9 none = .error (.invalidAddress "net" "h:70000x"
        "invalid port '70000x': number too large to fit in target type") := by
  obtain ⟨haccepted, -, -⟩ := accepted_exactly_with_usable_port "[::1]:+00443" 9 none
  obtain ⟨-, hrefused, -⟩ := accepted_exactly_with_usable_port "h:70000x" 9 none
  have hnumeral : Text.Numeral "+00443".toList 443 :=
    (Text.readDecimalChars_eq_ok_iff.1 (by decide : Text.readDecimalChars 65535 "+00443".toList = .ok 443)).1
  have hlarge : Text.Reads 65535 "70000x".toList (.error .tooLarge) :=
    Text.readDecimalChars_eq_iff.1 (by decide)
  refine ⟨haccepted.2 ⟨"[::1]", "+00443", 443, by decide, by decide, by decide, hnumeral, by decide, by decide⟩,
    (hrefused _).2 ⟨.invalidPort "70000x" .tooLarge, ?_, by decide⟩⟩
  exact .invalidPort ⟨by decide, by decide⟩ (by decide : "h" ≠ "") hlarge

end Courier.Network
