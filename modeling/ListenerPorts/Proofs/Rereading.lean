import ListenerPorts.Json.Printer
import ListenerPorts.Json.Reader
import Mathlib.Tactic

set_option autoImplicit false

/-! # Objects that are printed and read back

An object whose names are made of bare characters, which stand for themselves in a string, and whose
values are truth values is read back from its JSON text as it was printed: with the same members in
the same order, as long as no name comes twice. Reading is followed on the characters that are left:
each lemma says what is read from the front of a text and that the rest of it is still there.
-/

namespace ListenerPorts

namespace Json

/-! ## Strings -/

/-- A character that stands for itself in a string. -/
def IsBare (c : Char) : Prop := 0x20 ≤ c.toNat ∧ c.toNat < 0x7F ∧ c ≠ '"' ∧ c ≠ '\\'

theorem printChar_bare {c : Char} (h : IsBare c) : printChar c = [c] := by
  obtain ⟨hlow, hhigh, hquote, hbackslash⟩ := h
  have hother : ∀ d : Char, d.toNat < 0x20 → c ≠ d := by
    rintro d hd rfl
    omega
  unfold printChar
  rw [if_neg hquote, if_neg hbackslash, if_neg (hother '\n' (by decide)),
    if_neg (hother '\r' (by decide)), if_neg (hother '\t' (by decide)),
    if_neg (hother '\x0c' (by decide)), if_neg (hother '\x08' (by decide)),
    if_pos ⟨hlow, hhigh⟩]

theorem toList_printString {s : String} (h : ∀ c ∈ s.toList, IsBare c) :
    (printString s).toList = '"' :: s.toList ++ ['"'] := by
  have hbare : s.toList.flatMap printChar = s.toList := by
    calc s.toList.flatMap printChar
        = s.toList.flatMap fun c => [c] := List.flatMap_congr fun c hc => printChar_bare (h c hc)
      _ = s.toList := List.flatMap_singleton' _
  rw [printString, hbare, String.toList_ofList]

/-- Bare characters are read one after the other, up to the closing quote. -/
theorem readChars_bare (start : List Char) {cs : List Char} (h : ∀ c ∈ cs, IsBare c)
    (rest : List Char) {fuel : Nat} (hfuel : cs.length < fuel) (acc : List Char) :
    readChars start fuel acc (cs ++ '"' :: rest) = .ok (String.ofList (acc.reverse ++ cs), rest) := by
  induction cs generalizing fuel acc with
  | nil =>
      obtain ⟨n, rfl⟩ : ∃ n, fuel = n + 1 := ⟨fuel - 1, by omega⟩
      rw [List.nil_append, List.append_nil, readChars]
      exact Nat.succ_ne_zero n
  | cons c cs ih =>
      obtain ⟨hc, hcs⟩ := List.forall_mem_cons.mp h
      obtain ⟨hlow, -, hquote, hbackslash⟩ := hc
      rw [List.length_cons] at hfuel
      obtain ⟨n, rfl⟩ : ∃ n, fuel = n + 1 := ⟨fuel - 1, by omega⟩
      have hstep : readChars start (n + 1) acc (c :: (cs ++ '"' :: rest)) =
          readChars start n (c :: acc) (cs ++ '"' :: rest) := by
        rw [readChars, if_neg (by omega)]
        all_goals grind
      rw [List.cons_append, hstep, ih hcs (by omega), List.reverse_cons, List.append_assoc,
        List.singleton_append]

theorem readString_bare {cs : List Char} (h : ∀ c ∈ cs, IsBare c) (rest : List Char) :
    readString (cs ++ '"' :: rest) = .ok (String.ofList cs, rest) := by
  unfold readString
  have hfuel : cs.length < (cs ++ '"' :: rest).length + 1 := by
    rw [List.length_append]
    omega
  rw [readChars_bare _ h rest hfuel, List.reverse_nil, List.nil_append]

/-! ## Members -/

def boolChars (b : Bool) : List Char := (if b then "true" else "false").toList

theorem readValue_bool (fuel levels : Nat) (b : Bool) (rest : List Char) :
    readValue (fuel + 1) levels (boolChars b ++ rest) = .ok (.bool b, rest) := by
  cases b <;> rfl

theorem skipBlanks_bool (b : Bool) (rest : List Char) :
    skipBlanks (' ' :: (boolChars b ++ rest)) = boolChars b ++ rest := by
  cases b <;> rfl

/-- The characters of a member whose name is bare. -/
def memberChars (m : String × Bool) : List Char :=
  '"' :: (m.1.toList ++ '"' :: ':' :: ' ' :: boolChars m.2)

def entryOf (m : String × Bool) : Value × Value := (.text m.1, .bool m.2)

/-- One member is read and put to those before it; what follows it decides how reading goes on. -/
theorem readMembers_member {m : String × Bool} (hname : ∀ c ∈ m.1.toList, IsBare c)
    (fuel levels : Nat) (acc : Entries) (more : List Char) :
    readMembers (fuel + 2) levels acc (memberChars m ++ more) =
      match skipBlanks more with
      | '\x7d' :: left => .ok (.map (acc.put (.text m.1) (.bool m.2)), left)
      | ',' :: more =>
        readMembers (fuel + 1) levels (acc.put (.text m.1) (.bool m.2)) (skipBlanks more)
      | place => stop .commaExpected place := by
  have hchars : memberChars m ++ more =
      '"' :: (m.1.toList ++ '"' :: ':' :: ' ' :: (boolChars m.2 ++ more)) := by
    simp [memberChars]
  have hcolon : skipBlanks (':' :: ' ' :: (boolChars m.2 ++ more)) =
      ':' :: ' ' :: (boolChars m.2 ++ more) := rfl
  rw [hchars, readMembers, readString_bare hname]
  simp only [bind, Except.bind, hcolon, skipBlanks_bool, readValue_bool, String.ofList_toList]
  rfl

/-- A name that is new goes to the end. -/
theorem put_new {acc : List (String × Bool)} {m : String × Bool} (h : m.1 ∉ acc.map Prod.fst) :
    Entries.put (acc.map entryOf) (.text m.1) (.bool m.2) = (acc ++ [m]).map entryOf := by
  induction acc with
  | nil => rfl
  | cons m' acc ih =>
      rw [List.map_cons, List.mem_cons, not_or] at h
      have hother : ((entryOf m').1.sameKey (.text m.1)) = false :=
        beq_eq_false_iff_ne.mpr (Ne.symm h.1)
      rw [List.map_cons, List.cons_append, List.map_cons, Entries.put, hother, ih h.2]
      rfl

theorem new_of_nodup {acc ms : List (String × Bool)} {m : String × Bool}
    (h : ((acc ++ m :: ms).map Prod.fst).Nodup) : m.1 ∉ acc.map Prod.fst := by
  rw [List.map_append, List.nodup_append] at h
  exact fun hm => h.2.2 _ hm m.1 (by simp) rfl

/-- The characters of more members, each behind a comma and on a line of its own. -/
def moreChars (ms : List (String × Bool)) : List Char :=
  ms.flatMap fun m => ',' :: '\n' :: ' ' :: ' ' :: memberChars m

theorem length_le_moreChars (ms : List (String × Bool)) : ms.length ≤ (moreChars ms).length := by
  induction ms with
  | nil => exact le_refl 0
  | cons m ms ih =>
      unfold moreChars at ih ⊢
      rw [List.flatMap_cons, List.length_append, List.length_cons, List.length_cons]
      omega

/-- Members are read one after the other, up to the closing brace. -/
theorem readMembers_all (acc : List (String × Bool)) {m : String × Bool}
    {ms : List (String × Bool)}
    (hnames : ∀ n ∈ (m :: ms).map Prod.fst, ∀ c ∈ n.toList, IsBare c)
    (hdistinct : ((acc ++ m :: ms).map Prod.fst).Nodup) {fuel : Nat} (hfuel : ms.length + 2 ≤ fuel)
    (levels : Nat) (rest : List Char) :
    readMembers fuel levels (acc.map entryOf)
        (memberChars m ++ (moreChars ms ++ '\n' :: '\x7d' :: rest)) =
      .ok (.map ((acc ++ m :: ms).map entryOf), rest) := by
  induction ms generalizing m acc fuel with
  | nil =>
      obtain ⟨n, rfl⟩ : ∃ n, fuel = n + 2 := ⟨fuel - 2, by simp at hfuel; omega⟩
      rw [readMembers_member (hnames m.1 (by simp)), put_new (new_of_nodup hdistinct)]
      rfl
  | cons next ms ih =>
      rw [List.length_cons] at hfuel
      obtain ⟨n, rfl⟩ : ∃ n, fuel = n + 2 := ⟨fuel - 2, by omega⟩
      rw [readMembers_member (hnames m.1 (by simp)), put_new (new_of_nodup hdistinct)]
      -- behind the comma the next member begins
      have hcomma : skipBlanks (moreChars (next :: ms) ++ '\n' :: '\x7d' :: rest) =
          ',' :: '\n' :: ' ' :: ' ' ::
            (memberChars next ++ (moreChars ms ++ '\n' :: '\x7d' :: rest)) := by
        simp [moreChars, skipBlanks, isBlank]
      rw [hcomma]
      show readMembers (n + 1) levels ((acc ++ [m]).map entryOf)
        (memberChars next ++ (moreChars ms ++ '\n' :: '\x7d' :: rest)) = _
      have hfuel' : ms.length + 2 ≤ n + 1 := by omega
      have hrest := ih (acc ++ [m]) (m := next)
        (fun n hn => hnames n (List.mem_cons_of_mem _ hn)) (by simpa using hdistinct) hfuel'
      rw [hrest, List.append_assoc, List.singleton_append]

/-! ## Objects -/

/-- The characters of an object, in lines of their own for its members. -/
def objectChars : List (String × Bool) → List Char
  | [] => ['\x7b', '\x7d']
  | m :: ms => '\x7b' :: '\n' :: ' ' :: ' ' :: (memberChars m ++ (moreChars ms ++ ['\n', '\x7d']))

theorem toList_print_member {m : String × Bool} (h : ∀ c ∈ m.1.toList, IsBare c) :
    (printString m.1 ++ ": " ++ String.ofList (boolChars m.2)).toList = memberChars m := by
  rw [String.toList_append, String.toList_append, toList_printString h, String.toList_ofList]
  simp [memberChars]

/-- The texts of members are as many texts, one for each. -/
theorem printMembers_entries (level : Nat) (ms : List (String × Bool)) :
    printMembers level (ms.map entryOf) =
      .ok (ms.map fun m => printString m.1 ++ ": " ++ String.ofList (boolChars m.2)) := by
  induction ms with
  | nil => rfl
  | cons m ms ih =>
      have hvalue : printAt level (.bool m.2) = .ok (String.ofList (boolChars m.2)) := by
        rw [printAt, boolChars, String.ofList_toList]
      rw [List.map_cons, entryOf, printMembers, ih, hvalue]
      rfl

/-- Members that are joined have a comma and a line break in between. -/
theorem toList_joined_members {m : String × Bool} {ms : List (String × Bool)}
    (h : ∀ n ∈ (m :: ms).map Prod.fst, ∀ c ∈ n.toList, IsBare c) :
    (("," ++ lineBreak 1).intercalate ((m :: ms).map fun m =>
      printString m.1 ++ ": " ++ String.ofList (boolChars m.2))).toList =
        memberChars m ++ moreChars ms := by
  have hbreak : ("," ++ lineBreak 1).toList = [',', '\n', ' ', ' '] := by decide
  induction ms generalizing m with
  | nil =>
      rw [List.map_singleton, String.intercalate_singleton, toList_print_member (h m.1 (by simp))]
      exact (List.append_nil _).symm
  | cons next ms ih =>
      have hrest := ih (m := next) fun n hn => h n (List.mem_cons_of_mem _ hn)
      rw [List.map_cons] at hrest ⊢
      rw [List.map_cons, String.intercalate_cons_cons, String.toList_append, hrest,
        String.toList_append, hbreak, toList_print_member (h m.1 (by simp)), List.append_assoc]
      rfl

theorem print_object {ms : List (String × Bool)}
    (h : ∀ n ∈ ms.map Prod.fst, ∀ c ∈ n.toList, IsBare c) :
    print (.map (ms.map entryOf)) = .ok (String.ofList (objectChars ms)) := by
  rw [print, printAt, printMembers_entries]
  refine congrArg Except.ok (String.toList_injective ?_)
  rw [String.toList_ofList, enclose]
  cases ms with
  | nil => rfl
  | cons m ms =>
      have hfront : ("\x7b" ++ lineBreak 1).toList = ['\x7b', '\n', ' ', ' '] := by decide
      have hback : (lineBreak 0 ++ "\x7d").toList = ['\n', '\x7d'] := by decide
      rw [if_neg (by simp), String.append_assoc, String.toList_append, String.toList_append, hfront,
        hback, toList_joined_members h]
      simp [objectChars]

theorem readValue_object {ms : List (String × Bool)}
    (hnames : ∀ n ∈ ms.map Prod.fst, ∀ c ∈ n.toList, IsBare c)
    (hdistinct : (ms.map Prod.fst).Nodup) (levels : Nat) (rest : List Char) :
    readValue (2 * (objectChars ms ++ rest).length + 1) (levels + 1) (objectChars ms ++ rest) =
      .ok (.map (ms.map entryOf), rest) := by
  cases ms with
  | nil => rfl
  | cons m ms =>
      have hchars : objectChars (m :: ms) ++ rest = '\x7b' :: '\n' :: ' ' :: ' ' ::
          (memberChars m ++ (moreChars ms ++ '\n' :: '\x7d' :: rest)) := by
        simp [objectChars]
      have hlength := length_le_moreChars ms
      have hopen : ∀ fuel more, readValue (fuel + 1) (levels + 1) ('\x7b' :: '\n' :: ' ' :: ' ' ::
          (memberChars m ++ more)) = readMembers fuel levels [] (memberChars m ++ more) := by
        intro fuel more
        rw [readValue]
        rfl
      rw [hchars, hopen]
      refine readMembers_all [] hnames hdistinct ?_ levels rest
      simp only [List.length_cons, List.length_append]
      omega

/-- **Round trip.** An object with different bare names and truth values is printed, and its text is
read back as the object, also with blanks behind it, by a reader that follows one level at least. -/
theorem read_print_object (ms : List (String × Bool))
    (hnames : ∀ n ∈ ms.map Prod.fst, ∀ c ∈ n.toList, IsBare c)
    (hdistinct : (ms.map Prod.fst).Nodup) :
    ∃ text, print (.map (ms.map entryOf)) = .ok text ∧
      ∀ (levels : Nat) (blanks : String), skipBlanks blanks.toList = [] →
        read (levels + 1) (text ++ blanks) = .ok (.map (ms.map entryOf)) := by
  refine ⟨_, print_object hnames, fun levels blanks hblanks => ?_⟩
  have hread : readAll (levels + 1) (objectChars ms ++ blanks.toList) =
      .ok (.map (ms.map entryOf)) := by
    have hfront : skipBlanks (objectChars ms ++ blanks.toList) = objectChars ms ++ blanks.toList := by
      cases ms <;> rfl
    have hunmarked : ∀ cs, objectChars ms ++ blanks.toList ≠ '\uFEFF' :: cs := by
      cases ms <;> exact fun cs h => absurd (List.cons.inj h).1 (by decide)
    unfold readAll
    split
    · rename_i hcs
      exact absurd hcs (hunmarked _)
    · rw [hfront, readValue_object hnames hdistinct]
      simp only [bind, Except.bind, hblanks]
      rfl
  unfold read
  rw [String.toList_append, String.toList_ofList, hread]
  rfl

end Json

end ListenerPorts
