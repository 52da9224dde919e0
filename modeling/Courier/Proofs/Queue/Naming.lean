import Courier.Proofs.Queue.Binding
import Courier.Proofs.Store.Joining
import Courier.Queue.Sender
import Courier.Transport.Basic
import Mathlib.Data.List.Basic

/-! # Names that stay in the directory of queues

A plain name stands for one entry of the directory of queues, which no other plain name stands for. Any other
name that is not an absolute path is refused before anything is done (`names_stay_in_their_directory`).
-/

namespace Courier.Queue

variable {directory : Option String} {address name inside path entry : String}

structure IsPlain (name : String) : Prop where
  ne_empty : name ≠ ""
  ne_here : name ≠ "."
  ne_up : name ≠ ".."
  chars : ∀ c ∈ name.toList, 'a' ≤ c ∧ c ≤ 'z' ∨ 'A' ≤ c ∧ c ≤ 'Z' ∨ '0' ≤ c ∧ c ≤ '9' ∨
    c = '.' ∨ c = '_' ∨ c = '-'

theorem isNameChar_iff (c : Char) : isNameChar c = true ↔ 'a' ≤ c ∧ c ≤ 'z' ∨ 'A' ≤ c ∧ c ≤ 'Z' ∨
    '0' ≤ c ∧ c ≤ '9' ∨ c = '.' ∨ c = '_' ∨ c = '-' := by
  have hchar : isNameChar c = ((decide ('A' ≤ c ∧ c ≤ 'Z') || (decide ('a' ≤ c) && decide (c ≤ 'z'))
      || (decide ('0' ≤ c) && decide (c ≤ '9'))) || c == '.' || c == '_' || c == '-') := rfl
  rw [hchar]
  simp only [Bool.or_eq_true, Bool.and_eq_true, decide_eq_true_iff, beq_iff_eq, or_assoc]
  exact or_left_comm

theorem isPlainName_iff : isPlainName name = true ↔ IsPlain name := by
  simp only [isPlainName, Bool.and_eq_true, bne_iff_ne, List.all_eq_true, isNameChar_iff]
  exact ⟨fun ⟨⟨⟨hempty, hhere⟩, hup⟩, hchars⟩ => ⟨hempty, hhere, hup, hchars⟩,
    fun h => ⟨⟨⟨h.ne_empty, h.ne_here⟩, h.ne_up⟩, h.chars⟩⟩

def entryName (name : String) : String := name ++ ".mq"

theorem toList_entryName (name : String) : (entryName name).toList = name.toList ++ ['.', 'm', 'q'] := by
  simp [entryName]

theorem entryName_injective {left right : String} (h : entryName left = entryName right) : left = right := by
  apply String.toList_injective
  have hchars := congrArg String.toList h
  rw [toList_entryName, toList_entryName] at hchars
  exact List.append_cancel_right hchars

/-- An entry is never a dot, nor two, and only its characters can separate names. -/
theorem slash_notMem_entryName (h : '/' ∉ name.toList) :
    '/' ∉ (entryName name).toList ∧ entryName name ≠ "" ∧ entryName name ≠ "." ∧ entryName name ≠ ".." := by
  have hne (text : String) (hshort : text.toList.length ≤ 2) : entryName name ≠ text := by
    rintro rfl
    rw [toList_entryName, List.length_append] at hshort
    exact absurd hshort (by simp)
  refine ⟨?_, hne _ (by decide), hne _ (by decide), hne _ (by decide)⟩
  rw [toList_entryName, List.mem_append, not_or]
  exact ⟨h, by decide⟩

theorem IsPlain.slash_notMem (h : IsPlain name) : '/' ∉ name.toList :=
  fun hslash => absurd (h.chars '/' hslash) (by decide)

/-- A path of an entry directly in a directory: it takes the steps of the directory and one more. -/
structure IsChild (inside path entry : String) : Prop where
  steps : Path.steps path = Path.steps inside ++ [entry]
  start : Path.isAbsolute path = Path.isAbsolute inside
  ends : Path.endsWithSlash path = false

/-- An entry is put after its directory with one slash between them, unless there is nothing before it. -/
theorem entryPath_cases (inside entry : String) :
    inside = "" ∧ entryPath inside entry = entry ∨
      ∃ above, entryPath inside entry = above ++ "/" ++ entry ∧ Path.steps above = Path.steps inside ∧
        (above ++ "/").toList.head? = inside.toList.head? := by
  rw [entryPath]
  by_cases hempty : inside = ""
  · subst hempty
    exact .inl ⟨rfl, by simp⟩
  right
  by_cases hslash : Path.endsWithSlash inside = true
  · obtain ⟨above, rfl⟩ := Path.exists_of_endsWithSlash hslash
    have hends : ((above ++ "/").toList.getLast? == some '/') = true := hslash
    refine ⟨above, by rw [hends, Bool.or_true, if_pos rfl], ?_, rfl⟩
    have hsteps := Path.steps_join above ""
    rw [String.append_empty] at hsteps
    rw [hsteps, show Path.steps "" = [] by decide, List.append_nil]
  · have hends : (inside.toList.getLast? == some '/') = false := Bool.eq_false_iff.2 hslash
    refine ⟨inside, by rw [hends]; simp [hempty], rfl, ?_⟩
    have hchars : inside.toList ≠ [] := by simpa using hempty
    rw [String.toList_append, List.head?_append_of_ne_nil _ hchars]

theorem isChild_entryPath (hslash : '/' ∉ entry.toList) (hentry : entry ≠ "") (inside : String) :
    IsChild inside (entryPath inside entry) entry := by
  have hchars : entry.toList ≠ [] := by simpa using hentry
  have hlast (before : String) : Path.endsWithSlash (before ++ entry) = false := by
    rw [Path.endsWithSlash, beq_eq_false_iff_ne, String.toList_append, List.getLast?_append_of_ne_nil _ hchars]
    exact fun h => hslash (List.mem_of_getLast? h)
  have hname := Path.steps_of_notMem hslash hentry
  rcases entryPath_cases inside entry with ⟨rfl, hpath⟩ | ⟨above, hpath, hsteps, hhead⟩
  · rw [hpath]
    refine ⟨by rw [hname]; rfl, ?_, by simpa using hlast ""⟩
    rw [Path.isAbsolute_of_notMem hslash]
    rfl
  · rw [hpath]
    refine ⟨by rw [Path.steps_join, hsteps, hname], ?_, hlast _⟩
    have hstart : (above ++ "/" ++ entry).toList.head? = (above ++ "/").toList.head? := by
      rw [String.toList_append, List.head?_append_of_ne_nil _ (by simp)]
    rw [Path.isAbsolute, Path.isAbsolute, hstart, hhead]

theorem entryPath_injective {left right : String} (h : entryPath inside left = entryPath inside right) :
    left = right := by
  rw [entryPath, entryPath] at h
  apply String.toList_injective
  split at h
  all_goals
    have hchars := congrArg String.toList h
    simpa using hchars

/-- What an address is refused for that is neither an absolute path nor a plain name. -/
def nameFault (address : String) : Transport.Error :=
  .invalidAddress "localqueue" address "queue names may only contain [A-Za-z0-9._-]"

theorem resolveName_of_absolute (h : Path.isAbsolute address = true) :
    resolveName directory address = .ok address := by
  rw [resolveName, if_pos h]

theorem resolveName_of_plain (h : IsPlain address) :
    resolveName directory address
      = .ok (entryPath (directory.getD defaultDirectory) (entryName address)) := by
  have hrelative : ¬ Path.isAbsolute address = true := by
    rw [Path.isAbsolute_of_notMem h.slash_notMem]
    exact Bool.false_ne_true
  rw [resolveName, if_neg hrelative, if_pos (isPlainName_iff.2 h), entryName]

theorem resolveName_of_other (hrelative : Path.isAbsolute address = false) (h : ¬ IsPlain address) :
    resolveName directory address = .error (nameFault address) := by
  have hother : ¬ isPlainName address = true := fun hplain => h (isPlainName_iff.1 hplain)
  rw [resolveName, hrelative, if_neg Bool.false_ne_true, if_neg hother, nameFault]

/-- An entry is where its name stands in the directory of queues, wherever that directory is. -/
theorem place_of_plain (h : IsPlain address) {store : Store} {place : Place} {approach : Store.Approach}
    {arrival : Store.Arrival} (hbegins : store.BeginsAt inside place)
    (hstays : approach.follows false = false)
    (hfind : store.find approach (entryPath inside (entryName address)) = .ok arrival) :
    arrival.place = place ++ [entryName address] := by
  obtain ⟨hslash, hempty, hhere, hup⟩ := slash_notMem_entryName h.slash_notMem
  have hchild := isChild_entryPath hslash hempty inside
  exact Store.place_of_find hbegins hchild.steps hchild.start hchild.ends hhere hup hstays hfind

theorem path_of_bind {host later : Host} {capacity : Nat} {access : Access} {receiver : Receiver}
    (hname : resolveName host.queueDirectory address = .ok path)
    (hbind : Receiver.bind host address capacity access = (.ok receiver, later)) : receiver.path = path := by
  rw [Receiver.bind, hname] at hbind
  dsimp only at hbind
  repeat' split at hbind
  all_goals cases hbind
  rfl

/-- An absolute path stands for itself. Any other address stands for something exactly if it is a plain name,
and then for an entry directly in the directory of queues: the path takes the steps of the directory and one
more, to a name that holds no slash and is neither one dot nor two, and wherever the directory is, the path
leads to that name in it and nowhere else. Different plain names have different paths, and senders and
receivers agree on the path of a name. What is neither an absolute path nor a plain name is refused as such
to both, before anything is opened, bound or made. -/
theorem names_stay_in_their_directory (directory : Option String) (address : String) :
    let inside := directory.getD defaultDirectory
    let resolved := resolveName directory address
    (Path.isAbsolute address = true → resolved = .ok address) ∧
      (Path.isAbsolute address = false → ((∃ path, resolved = .ok path) ↔ IsPlain address)) ∧
      (IsPlain address → ∃ path, resolved = .ok path ∧ IsChild inside path (address ++ ".mq") ∧
        '/' ∉ (address ++ ".mq").toList ∧ address ++ ".mq" ≠ "." ∧ address ++ ".mq" ≠ ".." ∧
        (∀ (store : Store) (place : Place), store.BeginsAt inside place → ∀ approach arrival,
          approach.follows false = false → store.find approach path = .ok arrival →
          arrival.place = place ++ [address ++ ".mq"]) ∧
        ∀ other, IsPlain other → resolveName directory other = .ok path → other = address) ∧
      (∀ path, resolved = .ok path → ∀ host : Host, host.queueDirectory = directory →
        Sender.open host address = .ok ⟨address, path⟩ ∧
          ∀ capacity access receiver later,
            Receiver.bind host address capacity access = (.ok receiver, later) → receiver.path = path) ∧
      (Path.isAbsolute address = false → ¬ IsPlain address →
        resolved = .error (nameFault address) ∧ ∀ host : Host, host.queueDirectory = directory →
          Sender.open host address = .error (nameFault address) ∧
            (∀ capacity access,
              Receiver.bind host address capacity access = (.error (nameFault address), host)) ∧
            ∀ port : Port, port.backend? = some .localQueue → port.address = address →
              (∀ config, Transport.openSend host port config = (.error (nameFault address), host)) ∧
                ∀ capacity access,
                  Transport.openReceive host port capacity access = (.error (nameFault address), host)) := by
  intro inside resolved
  refine ⟨resolveName_of_absolute, fun hrelative => ⟨?_, fun h => ⟨_, resolveName_of_plain h⟩⟩, fun h => ?_,
    ?_, fun hrelative h => ?_⟩
  · rintro ⟨path, hpath⟩
    by_contra h
    have hrefused : resolved = .error (nameFault address) := resolveName_of_other hrelative h
    rw [hrefused] at hpath
    cases hpath
  · obtain ⟨hslash, hempty, hhere, hup⟩ := slash_notMem_entryName h.slash_notMem
    refine ⟨_, resolveName_of_plain h, isChild_entryPath hslash hempty inside, hslash, hhere, hup, ?_, ?_⟩
    · intro store place hbegins approach arrival hstays hfind
      exact place_of_plain h hbegins hstays hfind
    · intro other hother hsame
      rw [resolveName_of_plain hother] at hsame
      exact entryName_injective (entryPath_injective (Except.ok.inj hsame))
  · rintro path hpath host rfl
    refine ⟨?_, fun capacity access receiver later hbind => path_of_bind hpath hbind⟩
    rw [Sender.open, show resolveName host.queueDirectory address = .ok path from hpath]
  · have hrefused : resolved = .error (nameFault address) := resolveName_of_other hrelative h
    refine ⟨hrefused, ?_⟩
    rintro host rfl
    have hsend : Sender.open host address = .error (nameFault address) := by
      rw [Sender.open, show resolveName host.queueDirectory address = _ from hrefused]
    have hbind (capacity : Nat) (access : Access) :
        Receiver.bind host address capacity access = (.error (nameFault address), host) := by
      rw [Receiver.bind, show resolveName host.queueDirectory address = _ from hrefused]
    refine ⟨hsend, hbind, ?_⟩
    rintro port hbackend rfl
    refine ⟨fun config => ?_, fun capacity access => ?_⟩
    · rw [Transport.openSend, hbackend]
      simp only [hsend, Except.map]
    · rw [Transport.openReceive, hbackend]
      exact hbind capacity access

/-- A name that ends like the names of entries is no exception, and the way up is no name. -/
theorem name_with_suffix_stays_in_its_directory :
    let host : Host := { Host.isolated with queueDirectory := some "/tmp/" }
    host.store.BeginsAt "/tmp/" ["tmp"] ∧ IsPlain "a.mq" ∧ ¬ IsPlain "../a" ∧
      Sender.open host "a.mq" = .ok ⟨"a.mq", "/tmp/a.mq.mq"⟩ ∧
      (∃ arrival, host.store.find .vacancy "/tmp/a.mq.mq" = .ok arrival ∧
        arrival.place = ["tmp", "a.mq.mq"]) ∧
      (∀ other, IsPlain other → resolveName (some "/tmp/") other = .ok "/tmp/a.mq.mq" → other = "a.mq") ∧
      Sender.open host "../a" = .error (nameFault "../a") ∧
      Receiver.bind host "../a" 9 .admin = (.error (nameFault "../a"), host) := by
  intro host
  have hbegins : host.store.BeginsAt "/tmp/" ["tmp"] := by
    refine .inr (Store.lookup_eq_ok_iff.2 ⟨⟨["tmp"], some .directory, true, true⟩, ?_, rfl, rfl, fun _ => rfl⟩)
    exact Store.find_eq_ok_iff.2 ⟨rfl, Store.walk_last ⟨by decide, by decide, by decide⟩ rfl nofun⟩
  have hplain : IsPlain "a.mq" := isPlainName_iff.1 (by decide)
  have hother : ¬ IsPlain "../a" := fun h => absurd (isPlainName_iff.2 h) (by decide)
  have hresolved : resolveName (some "/tmp/") "a.mq" = .ok "/tmp/a.mq.mq" := by decide
  obtain ⟨-, -, hchild, hends, -⟩ := names_stay_in_their_directory (some "/tmp/") "a.mq"
  obtain ⟨path, hpath, -, -, -, -, hplace, hunique⟩ := hchild hplain
  obtain rfl : "/tmp/a.mq.mq" = path := Except.ok.inj (hresolved.symm.trans hpath)
  have hfind : host.store.find .vacancy "/tmp/a.mq.mq" = .ok ⟨["tmp", "a.mq.mq"], none, true, false⟩ := by
    refine Store.find_eq_ok_iff.2 ⟨rfl, ?_⟩
    refine (Store.walk_directory ⟨by decide, by decide, by decide⟩ rfl rfl).trans ?_
    exact Store.walk_end ⟨by decide, by decide, by decide⟩ nofun nofun
  obtain ⟨-, -, -, -, hrefused⟩ := names_stay_in_their_directory (some "/tmp/") "../a"
  obtain ⟨-, hnothing⟩ := hrefused (by decide) hother
  obtain ⟨hsend, hbind, -⟩ := hnothing host rfl
  exact ⟨hbegins, hplain, hother, (hends _ hresolved host rfl).1,
    ⟨_, hfind, hplace _ _ hbegins .vacancy _ rfl hfind⟩, hunique, hsend, hbind 9 .admin⟩

end Courier.Queue
