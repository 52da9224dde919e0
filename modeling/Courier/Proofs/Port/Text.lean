import Courier.Proofs.Text.Json

/-! # The text of a port

A text is read as a port exactly if it is the text of that port, so a port and its text determine each
other. Ports that are made of parts, read from texts or loaded from where they were stored are the same ones
(`ports_and_texts_correspond`).
-/

namespace Courier

namespace Port

theorem ofParts_self (port : Port) : ofParts port.tag port.address = .ok port := by
  simp [ofParts, port.tag_ne_empty, port.colon_notMem_tag, port.address_ne_empty]

theorem parts_of_ofParts {tag address : String} {port : Port} (h : ofParts tag address = .ok port) :
    port.tag = tag ∧ port.address = address := by
  simp only [ofParts] at h
  repeat' split at h
  all_goals cases h
  exact ⟨rfl, rfl⟩

theorem join_cut {text : String} {c : Char} {rest : List Char}
    (h : text.toList.dropWhile (· != ':') = c :: rest) :
    join (String.ofList (text.toList.takeWhile (· != ':'))) (String.ofList rest) = text := by
  have hcolon : c = ':' := by
    have hstop := List.head?_dropWhile_not (· != ':') text.toList
    rw [h] at hstop
    simpa using hstop
  have hchars : text.toList.takeWhile (· != ':') ++ c :: rest = text.toList := by
    rw [← h, List.takeWhile_append_dropWhile]
  rw [hcolon] at hchars
  apply String.toList_injective
  simpa [join] using hchars

theorem parse_eq_ok_iff {text : String} {port : Port} : parse text = .ok port ↔ text = port.text := by
  constructor
  · intro h
    rw [parse] at h
    split at h
    · cases h
    · rename_i c rest hcut
      obtain ⟨htag, haddress⟩ := parts_of_ofParts h
      rw [Port.text, htag, haddress, join_cut hcut]
  · rintro rfl
    rw [Port.text, parse_join port.colon_notMem_tag, ofParts_self]

theorem text_injective {left right : Port} (h : left.text = right.text) : left = right := by
  have hleft : parse right.text = .ok left := parse_eq_ok_iff.2 h.symm
  exact Except.ok.inj (hleft.symm.trans (parse_eq_ok_iff.2 rfl))

theorem ofParts_eq_ok_iff {tag address : String} {port : Port} :
    ofParts tag address = .ok port ↔ port.tag = tag ∧ port.address = address := by
  refine ⟨parts_of_ofParts, ?_⟩
  rintro ⟨rfl, rfl⟩
  exact ofParts_self port

theorem exists_parts_iff {tag address : String} :
    (∃ port : Port, port.tag = tag ∧ port.address = address) ↔
      tag ≠ "" ∧ ':' ∉ tag.toList ∧ address ≠ "" := by
  constructor
  · rintro ⟨port, rfl, rfl⟩
    exact ⟨port.tag_ne_empty, port.colon_notMem_tag, port.address_ne_empty⟩
  · rintro ⟨htag, hcolon, haddress⟩
    exact ⟨⟨tag, address, htag, hcolon, haddress⟩, rfl, rfl⟩

end Port

namespace Transport

variable {Value : Type} {text tag address : String} {port : Port}

theorem mapError_eq_ok_iff {ε δ α : Type} {f : ε → δ} {outcome : Except ε α} {value : α} :
    outcome.mapError f = .ok value ↔ outcome = .ok value := by
  cases outcome <;> simp [Except.mapError]

theorem readPort_eq_ok_iff : readPort text = .ok port ↔ text = port.text := by
  rw [readPort, mapError_eq_ok_iff, Port.parse_eq_ok_iff]

theorem portOfParts_eq_ok_iff :
    portOfParts tag address = .ok port ↔ port.tag = tag ∧ port.address = address := by
  rw [portOfParts, mapError_eq_ok_iff, Port.ofParts_eq_ok_iff]

theorem load_store (format : Text.Format Value) (port : Port) : load format (store format port) = .ok port := by
  rw [store, load_write, readPort_eq_ok_iff.2 rfl]
  rfl

/-- A text is read as a port exactly if there is a tag before its first colon and an address behind it, and it
is the text of that port. Two parts make a port exactly if both are there and the tag has no colon, and then
the text that joins them is read as the same port. Every port can be made of parts, read and loaded, different
ports have different texts, and a port that was stored is loaded again. -/
theorem ports_and_texts_correspond (format : Text.Format Value) :
    (∀ text, ((∃ port, readPort text = .ok port) ↔
          ∃ tag address, text = tag ++ ":" ++ address ∧ ':' ∉ tag.toList ∧ tag ≠ "" ∧ address ≠ "") ∧
        ∀ port, readPort text = .ok port → port.text = text) ∧
      (∀ tag address, ((∃ port, portOfParts tag address = .ok port) ↔
          tag ≠ "" ∧ ':' ∉ tag.toList ∧ address ≠ "") ∧
        ∀ port, portOfParts tag address = .ok port →
          readPort (Port.join tag address) = .ok port ∧ port.tag = tag ∧ port.address = address) ∧
      (∀ port, (∃ tag address, portOfParts tag address = .ok port) ∧ (∃ text, readPort text = .ok port) ∧
        ∃ value, load format value = .ok port) ∧
      (∀ left right : Port, left = right ↔ left.text = right.text) ∧
      ∀ port, load format (store format port) = .ok port := by
  refine ⟨fun text => ⟨⟨?_, ?_⟩, ?_⟩, fun tag address => ⟨?_, ?_⟩, fun port => ⟨?_, ?_, ?_⟩, ?_, ?_⟩
  · rintro ⟨port, hread⟩
    exact ⟨port.tag, port.address, readPort_eq_ok_iff.1 hread, port.colon_notMem_tag, port.tag_ne_empty,
      port.address_ne_empty⟩
  · rintro ⟨tag, address, rfl, hcolon, htag, haddress⟩
    exact ⟨⟨tag, address, htag, hcolon, haddress⟩, readPort_eq_ok_iff.2 rfl⟩
  · intro port hread
    exact (readPort_eq_ok_iff.1 hread).symm
  · simp only [portOfParts_eq_ok_iff, Port.exists_parts_iff]
  · intro port hparts
    obtain ⟨rfl, rfl⟩ := portOfParts_eq_ok_iff.1 hparts
    exact ⟨readPort_eq_ok_iff.2 rfl, rfl, rfl⟩
  · exact ⟨port.tag, port.address, portOfParts_eq_ok_iff.2 ⟨rfl, rfl⟩⟩
  · exact ⟨port.text, readPort_eq_ok_iff.2 rfl⟩
  · exact ⟨store format port, load_store format port⟩
  · exact fun left right => ⟨congrArg Port.text, Port.text_injective⟩
  · exact load_store format

/-- A port with colons in its address, kept in JSON. -/
theorem ports_and_texts_correspond_in_json :
    let port : Port := ⟨"net", "[::1]:6556", by decide, by decide, by decide⟩
    Transport.readPort "net:[::1]:6556" = .ok port ∧
      load Text.Json.format "\"net:[::1]:6556\"" = .ok port := by
  intro port
  obtain ⟨-, hparts, -, -, hload⟩ := ports_and_texts_correspond Text.Json.format
  have hmade : portOfParts "net" "[::1]:6556" = .ok port := portOfParts_eq_ok_iff.2 ⟨rfl, rfl⟩
  have hstored : store Text.Json.format port = "\"net:[::1]:6556\"" := by decide +kernel
  exact ⟨((hparts _ _).2 port hmade).1, hstored ▸ hload port⟩

end Transport

end Courier
