import Mathlib.Tactic.Tauto
import QueryPool.Login

namespace QueryPool.Login

open Text (Trims trim trim_eq_of_trims trim_eq_iff trims_trim)

/-- The fields of a text, which the semicolons in it divide. -/
structure Splits (s : String) (fs : List (List Char)) : Prop where
  nonempty : fs ≠ []
  joined : [';'].intercalate fs = s.toList
  undivided : ∀ f ∈ fs, ';' ∉ f

/-- A port in decimal digits, with or without zeros and a plus sign before it. -/
def IsPort (s : List Char) (n : Nat) : Prop :=
  n ≤ 65535 ∧ ∃ width, s = Text.padded width n ∨ s = '+' :: Text.padded width n

/-- The letters of the flag, each of them small or capital. -/
def IsFlag (s : List Char) : Prop :=
  ∃ a b c, s = [a, b, c] ∧ (a = 's' ∨ a = 'S') ∧ (b = 's' ∨ b = 'S') ∧ (c = 'l' ∨ c = 'L')

/-- Fields that can be read. -/
structure Readable (fs : List (List Char)) : Prop where
  count : fs.length = 5 ∨ fs.length = 6
  flag : ∀ f, fs[5]? = some f → ∃ t, Trims f t ∧ (t = [] ∨ IsFlag t)
  reach : (∃ f, fs[0]? = some f ∧ Trims f ['.']) ∨
    ∃ f t n, fs[1]? = some f ∧ Trims f t ∧ IsPort t n

/-- What fields say: the password as it stands, the rest without the blanks around it. -/
structure Says (fs : List (List Char)) (l : Login) : Prop where
  host : ∃ f, fs[0]? = some f ∧ Trims f l.host.toList
  place : ∃ f, fs[1]? = some f ∧ Trims f l.place.toList
  user : ∃ f, fs[2]? = some f ∧ Trims f l.user.toList
  password : fs[3]? = some l.password.toList
  database : ∃ f, fs[4]? = some f ∧ Trims f l.database.toList
  ssl : l.ssl = true ↔ ∃ f t, fs[5]? = some f ∧ Trims f t ∧ IsFlag t

variable {s : String} {fs : List (List Char)} {l : Login}

theorem not_mem_splitOn {c : Char} {s : List Char} : ∀ f ∈ s.splitOn c, c ∉ f := by
  induction s with
  | nil => simp
  | cons d s ih =>
    rw [List.splitOn_cons_eq_if_modifyHead]
    split
    · intro f hf
      rcases List.mem_cons.1 hf with rfl | hf
      · simp
      · exact ih f hf
    · rename_i hd
      cases hs : s.splitOn c with
      | nil => exact absurd hs (List.splitOn_ne_nil c s)
      | cons g gs =>
        rw [hs] at ih
        intro f hf
        rcases List.mem_cons.1 hf with rfl | hf
        · have hne : c ≠ d := fun h => hd (by simp [h])
          simpa [hne] using ih g (by simp)
        · exact ih f (by simp [hf])

theorem splits_iff : Splits s fs ↔ s.toList.splitOn ';' = fs := by
  constructor
  · intro h
    rw [← h.joined]
    exact List.splitOn_intercalate _ h.undivided h.nonempty
  · rintro rfl
    exact ⟨List.splitOn_ne_nil _ _, List.intercalate_splitOn _, not_mem_splitOn⟩

theorem bounded?_eq_some_iff {s : List Char} {n : Nat} :
    Text.bounded? maxPort s = some n ↔ IsPort s n := by
  have unsigned {width : Nat} {r : List Char} : Text.padded width n ≠ '+' :: r := by
    intro h
    have plus : '+' ∈ Text.padded width n := by simp [h]
    have digit : Char.isDigit '+' = true := Text.isDigit_of_mem_padded plus
    exact absurd digit (by decide)
  unfold Text.bounded? IsPort
  rw [Option.filter_eq_some_iff, decide_eq_true_iff, and_comm, Text.natural?_eq_some_iff]
  refine and_congr_right fun _ => ?_
  split
  · rename_i r
    constructor
    · rintro ⟨width, rfl⟩
      exact ⟨width, .inr rfl⟩
    · rintro ⟨width, h | h⟩
      · exact absurd h.symm unsigned
      · exact ⟨width, List.tail_eq_of_cons_eq h⟩
  · rename_i plain
    constructor
    · rintro ⟨width, rfl⟩
      exact ⟨width, .inl rfl⟩
    · rintro ⟨width, h | h⟩
      · exact ⟨width, h⟩
      · exact absurd h (plain _)

theorem toNat_toLower (c : Char) :
    c.toLower.toNat = if 65 ≤ c.toNat ∧ c.toNat ≤ 90 then c.toNat + 32 else c.toNat := by
  unfold Char.toLower
  split
  · rename_i h
    have capital : 65 ≤ c.toNat ∧ c.toNat ≤ 90 := h
    have small : c.val.toNat ≤ 90 := capital.2
    rw [if_pos capital]
    change (c.val + 32).toNat = c.val.toNat + 32
    rw [UInt32.toNat_add]
    simp
    omega
  · rename_i h
    have other : ¬(65 ≤ c.toNat ∧ c.toNat ≤ 90) := h
    rw [if_neg other]

theorem toLower_eq_iff {c d capital : Char} (small : 97 ≤ d.toNat)
    (pair : capital.toNat + 32 = d.toNat) (letter : 65 ≤ capital.toNat ∧ capital.toNat ≤ 90) :
    c.toLower = d ↔ c = d ∨ c = capital := by
  rw [← Char.toNat_inj, toNat_toLower, ← Char.toNat_inj, ← Char.toNat_inj]
  split <;> omega

theorem lowered_iff {s : List Char} : s.map Char.toLower = ['s', 's', 'l'] ↔ IsFlag s := by
  have isS (c : Char) : c.toLower = 's' ↔ c = 's' ∨ c = 'S' :=
    toLower_eq_iff (by decide) (by decide) (by decide)
  have isL (c : Char) : c.toLower = 'l' ↔ c = 'l' ∨ c = 'L' :=
    toLower_eq_iff (by decide) (by decide) (by decide)
  constructor
  · intro h
    have three : s.length = 3 := by simpa using congrArg List.length h
    match s, three with
    | [a, b, c], _ =>
      simp only [List.map_cons, List.map_nil, List.cons.injEq, and_true, isS, isL] at h
      exact ⟨a, b, c, rfl, h⟩
  · rintro ⟨a, b, c, rfl, ha, hb, hc⟩
    simp only [List.map_cons, List.map_nil, (isS a).2 ha, (isS b).2 hb, (isL c).2 hc]

theorem flag?_eq_some_iff {s : List Char} {b : Bool} :
    flag? s = some b ↔ s = [] ∧ b = false ∨ IsFlag s ∧ b = true := by
  by_cases flag : IsFlag s
  · have nonempty : s ≠ [] := by
      obtain ⟨_, _, _, rfl, _⟩ := flag
      simp
    simp [flag?, nonempty, lowered_iff.2 flag, flag, eq_comm]
  · have other : s.map Char.toLower ≠ ['s', 's', 'l'] := fun h => flag (lowered_iff.1 h)
    by_cases empty : s = []
    · subst empty
      simp [flag?, flag, eq_comm]
    · simp [flag?, empty, other, flag]

/-- What six fields are read as; a flag that is not there counts as empty. -/
theorem ofFields_eq_ok_iff {h p u w d f : List Char} : ofFields h p u w d f = .ok l ↔
    (trim h = ['.'] ∨ ∃ n, IsPort (trim p) n) ∧ flag? (trim f) = some l.ssl ∧
    l.host.toList = trim h ∧ l.place.toList = trim p ∧ l.user.toList = trim u ∧
    l.password.toList = w ∧ l.database.toList = trim d := by
  have reach : ¬(trim h ≠ ['.'] ∧ Text.bounded? maxPort (trim p) = none) ↔
      trim h = ['.'] ∨ ∃ n, IsPort (trim p) n := by
    simp only [← bounded?_eq_some_iff, ← Option.isSome_iff_exists, ← Option.not_isSome_iff_eq_none]
    tauto
  rw [← reach]
  obtain ⟨host, place, user, password, database, ssl⟩ := l
  simp only [ofFields]
  cases hf : flag? (trim f) with
  | none => simp
  | some b =>
    simp only
    split
    · rename_i unreachable
      simp [unreachable]
    · rename_i reachable
      simp only [Except.ok.injEq, Login.mk.injEq, String.ext_iff, String.toList_ofList,
        Option.some.injEq]
      grind

/-- Five fields, and perhaps a sixth. -/
theorem count_iff : fs.length = 5 ∨ fs.length = 6 ↔
    ∃ h p u w d, ∃ f : Option (List Char), fs = h :: p :: u :: w :: d :: f.toList := by
  constructor
  · intro count
    match fs, count with
    | [h, p, u, w, d], _ => exact ⟨h, p, u, w, d, none, rfl⟩
    | [h, p, u, w, d, f], _ => exact ⟨h, p, u, w, d, some f, rfl⟩
  · rintro ⟨h, p, u, w, d, f, rfl⟩
    cases f <;> simp

theorem parse_of_count {h p u w d : List Char} {f : Option (List Char)}
    (split : Splits s (h :: p :: u :: w :: d :: f.toList)) :
    parse s = ofFields h p u w d (f.getD []) := by
  rw [parse, splits_iff.1 split]
  cases f <;> rfl

theorem parse_of_miscount (split : Splits s fs) (count : ¬(fs.length = 5 ∨ fs.length = 6)) :
    parse s = .error (.fieldCount fs.length) := by
  rw [parse, splits_iff.1 split]
  split
  · simp at count
  · simp at count
  · rfl

theorem not_isFlag_nil : ¬IsFlag [] := by
  rintro ⟨_, _, _, h, _⟩
  cases h

theorem readable_iff {h p u w d : List Char} {f : Option (List Char)} :
    Readable (h :: p :: u :: w :: d :: f.toList) ↔
      (trim (f.getD []) = [] ∨ IsFlag (trim (f.getD []))) ∧
        (trim h = ['.'] ∨ ∃ n, IsPort (trim p) n) := by
  have sixth : (h :: p :: u :: w :: d :: f.toList)[5]? = f := by cases f <;> rfl
  constructor
  · rintro ⟨-, flag, reach⟩
    rw [sixth] at flag
    constructor
    · cases f with
      | none => exact .inl rfl
      | some f =>
        obtain ⟨t, ht, flag⟩ := flag f rfl
        rwa [Option.getD_some, trim_eq_of_trims ht]
    · rcases reach with ⟨f, hf, dot⟩ | ⟨f, t, n, hf, ht, port⟩
      · cases hf
        exact .inl (trim_eq_of_trims dot)
      · cases hf
        rw [← trim_eq_of_trims ht] at port
        exact .inr ⟨n, port⟩
  · rintro ⟨flag, reach⟩
    refine ⟨count_iff.2 ⟨h, p, u, w, d, f, rfl⟩, ?_, ?_⟩
    · intro g hg
      rw [sixth] at hg
      subst hg
      exact ⟨trim g, trims_trim g, flag⟩
    · rcases reach with dot | ⟨n, port⟩
      · exact .inl ⟨h, rfl, trim_eq_iff.1 dot⟩
      · exact .inr ⟨p, trim p, n, rfl, trims_trim p, port⟩

theorem says_iff {h p u w d : List Char} {f : Option (List Char)} :
    Says (h :: p :: u :: w :: d :: f.toList) l ↔
      l.host.toList = trim h ∧ l.place.toList = trim p ∧ l.user.toList = trim u ∧
        l.password.toList = w ∧ l.database.toList = trim d ∧
        (l.ssl = true ↔ IsFlag (trim (f.getD []))) := by
  have sixth : (h :: p :: u :: w :: d :: f.toList)[5]? = f := by cases f <;> rfl
  have field (g t : List Char) : (∃ f, some g = some f ∧ Trims f t) ↔ t = trim g := by
    constructor
    · rintro ⟨f, hf, ht⟩
      cases hf
      exact (trim_eq_of_trims ht).symm
    · rintro rfl
      exact ⟨g, rfl, trims_trim g⟩
  have flag : (∃ g t, f = some g ∧ Trims g t ∧ IsFlag t) ↔ IsFlag (trim (f.getD [])) := by
    constructor
    · rintro ⟨g, t, rfl, ht, flag⟩
      rwa [Option.getD_some, trim_eq_of_trims ht]
    · intro flag
      cases f with
      | none => exact absurd flag not_isFlag_nil
      | some g => exact ⟨g, trim g, rfl, trims_trim g, flag⟩
  constructor
  · rintro ⟨host, place, user, password, database, ssl⟩
    rw [sixth, flag] at ssl
    exact ⟨(field _ _).1 host, (field _ _).1 place, (field _ _).1 user,
      (Option.some.inj password).symm, (field _ _).1 database, ssl⟩
  · rintro ⟨host, place, user, password, database, ssl⟩
    rw [← flag, ← sixth] at ssl
    exact ⟨(field _ _).2 host, (field _ _).2 place, (field _ _).2 user,
      congrArg some password.symm, (field _ _).2 database, ssl⟩

/-- A text is read as a login if its fields can be read and say so. -/
theorem parse_eq_ok_iff (split : Splits s fs) : parse s = .ok l ↔ Readable fs ∧ Says fs l := by
  by_cases count : fs.length = 5 ∨ fs.length = 6
  · obtain ⟨h, p, u, w, d, f, rfl⟩ := count_iff.1 count
    rw [parse_of_count split, ofFields_eq_ok_iff, readable_iff, says_iff, flag?_eq_some_iff]
    cases hssl : l.ssl <;> grind [not_isFlag_nil]
  · rw [parse_of_miscount split count]
    constructor
    · intro h
      cases h
    · rintro ⟨readable, -⟩
      exact absurd readable.count count

theorem exists_parse_iff (split : Splits s fs) : (∃ l, parse s = .ok l) ↔ Readable fs := by
  constructor
  · rintro ⟨l, h⟩
    exact ((parse_eq_ok_iff split).1 h).1
  · intro readable
    obtain ⟨h, p, u, w, d, f, rfl⟩ := count_iff.1 readable.count
    classical
    let l : Login := ⟨.ofList (trim h), .ofList (trim p), .ofList (trim u), .ofList w,
      .ofList (trim d), decide (IsFlag (trim (f.getD [])))⟩
    have said : Says (h :: p :: u :: w :: d :: f.toList) l := says_iff.2 (by simp [l])
    exact ⟨l, (parse_eq_ok_iff split).2 ⟨readable, said⟩⟩

/-- The fields that a login is written with. -/
def written (l : Login) : List (List Char) :=
  l.host.toList :: l.place.toList :: l.user.toList :: l.password.toList :: l.database.toList ::
    (if l.ssl then some ['s', 's', 'l'] else none).toList

theorem written_splits (split : Splits s fs) (said : Says fs l) :
    Splits l.connectionString l.written := by
  have outer {i : Nat} {t : List Char} (h : ∃ f, fs[i]? = some f ∧ Trims f t) : ';' ∉ t := by
    obtain ⟨f, hf, ht⟩ := h
    intro hmem
    rw [← trim_eq_of_trims ht] at hmem
    exact split.undivided f (List.mem_of_getElem? hf) (Text.mem_of_mem_trim hmem)
  refine ⟨by simp [written], ?_, ?_⟩
  · rw [connectionString, String.toList_intercalate, written]
    cases l.ssl <;> rfl
  · have password := split.undivided _ (List.mem_of_getElem? said.password)
    have flag : ∀ f ∈ (if l.ssl then some ['s', 's', 'l'] else none).toList, ';' ∉ f := by
      cases l.ssl <;> decide
    simp only [written, List.forall_mem_cons]
    exact ⟨outer said.host, outer said.place, outer said.user, password, outer said.database, flag⟩

/-- A login that was read can be reached, also as it is written down. -/
theorem reached_of_parse (split : Splits s fs) (h : parse s = .ok l) :
    l.host.toList = ['.'] ∨ ∃ n, IsPort l.place.toList n := by
  obtain ⟨readable, said⟩ := (parse_eq_ok_iff split).1 h
  obtain ⟨h, p, u, w, d, f, rfl⟩ := count_iff.1 readable.count
  obtain ⟨host, place, -⟩ := says_iff.1 said
  rw [host, place]
  exact (readable_iff.1 readable).2

theorem parse_connectionString (split : Splits s fs) (h : parse s = .ok l) :
    parse l.connectionString = .ok l := by
  have said := ((parse_eq_ok_iff split).1 h).2
  have same {i : Nat} {t : List Char} (h : ∃ f, fs[i]? = some f ∧ Trims f t) : trim t = t := by
    obtain ⟨f, -, ht⟩ := h
    rw [← trim_eq_of_trims ht, Text.trim_trim]
  have flag : trim ((if l.ssl then some ['s', 's', 'l'] else none).getD []) =
      if l.ssl then ['s', 's', 'l'] else [] := by
    cases l.ssl <;> rfl
  have isFlag : IsFlag ['s', 's', 'l'] := ⟨'s', 's', 'l', rfl, .inl rfl, .inl rfl, .inl rfl⟩
  rw [parse_eq_ok_iff (written_splits split said), written, readable_iff, says_iff, flag,
    same said.host, same said.place, same said.user, same said.database]
  refine ⟨⟨?_, reached_of_parse split h⟩, rfl, rfl, rfl, rfl, rfl, ?_⟩
  · cases l.ssl <;> simp [isFlag]
  · cases l.ssl <;> simp [isFlag, not_isFlag_nil]

/-- Every text divides into fields. It is read as a login if there are five of them, or six with an
empty flag or the one that is known, and if the host is a dot or the place a port; it is then read
as what the fields say. A login that was read is reached by a socket or at a port, and reads back
from the text that it is written as. -/
theorem read_and_written_back (s : String) :
    (∃ fs, Splits s fs) ∧ ∀ fs, Splits s fs →
      ((∃ l, parse s = .ok l) ↔ Readable fs) ∧
      ∀ l, parse s = .ok l → Says fs l ∧
        (l.usesSocket = true ∨ ∃ n, l.port? = some n ∧ IsPort l.place.toList n) ∧
        parse l.connectionString = .ok l := by
  refine ⟨⟨_, splits_iff.2 rfl⟩, fun fs split => ⟨exists_parse_iff split, fun l h => ?_⟩⟩
  refine ⟨((parse_eq_ok_iff split).1 h).2, ?_, parse_connectionString split h⟩
  rcases reached_of_parse split h with dot | ⟨n, port⟩
  · have host : l.host = "." := String.toList_inj.1 dot
    exact .inl (by simp [usesSocket, host])
  · exact .inr ⟨n, bounded?_eq_some_iff.2 port, port⟩

/-- Blanks, a plus sign, zeros and capitals in every field that may have them. -/
def untidy : String := " db.local ;\t+003306; trinity ;  p w ;world ; sSl "

theorem read_and_written_back_untidy :
    let fs := [" db.local ", "\t+003306", " trinity ", "  p w ", "world ", " sSl "].map String.toList
    let l : Login := ⟨"db.local", "+003306", "trinity", "  p w ", "world", true⟩
    Splits untidy fs ∧ parse untidy = .ok l ∧ IsPort l.place.toList 3306 ∧
      parse "db.local;+003306;trinity;  p w ;world;ssl" = .ok l := by
  intro fs l
  have split : Splits untidy fs := splits_iff.2 (by decide +kernel)
  have read : parse untidy = .ok l := by rfl
  obtain ⟨-, reach, back⟩ := ((read_and_written_back untidy).2 fs split).2 l read
  have written : l.connectionString = "db.local;+003306;trinity;  p w ;world;ssl" := by rfl
  rw [written] at back
  rcases reach with socket | ⟨n, port, isPort⟩
  · cases socket
  · have value : l.port? = some 3306 := by decide +kernel
    rw [value] at port
    cases port
    exact ⟨split, read, isPort, back⟩

end QueryPool.Login
