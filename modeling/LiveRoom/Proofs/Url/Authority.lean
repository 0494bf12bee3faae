import LiveRoom.Proofs.Domain.Ascii
import LiveRoom.Proofs.Text.Utf8
import LiveRoom.Url.Parse
import Mathlib.Data.List.TakeWhile

/-!
# The part of a URL that names its host

Behind the slashes of a special scheme stands perhaps a user, then a host, then perhaps a
port.  This part ends where the path, the query or the fragment begins, and nothing behind
it has a say in it (`Url.afterSlashes_append`).  So two addresses with the same such part
lead to the same host, whatever follows.

A blank or a control at the end of it is an error (`Url.exists_authority_eq_error`): no
host has one, also not behind a percent sign or in another script, and no port has one.
-/

namespace LiveRoom

/-! ## Blanks and controls in hosts -/

namespace Url

/-- A byte that is part of no percent-encoding is left by decoding. -/
theorem mem_percentDecode {byte : UInt8} (hhex : Text.hexDigit? byte.toNat = none)
    (hne : byte ≠ 0x25) {bytes : List UInt8} (h : byte ∈ bytes) : byte ∈ percentDecode bytes := by
  fun_induction percentDecode bytes with
  | case1 => cases h
  | case2 high low bytes first second hsecond hfirst ih =>
    simp only [List.mem_cons, hne, false_or] at h
    rcases h with rfl | rfl | h
    · rw [hhex] at hfirst
      cases hfirst
    · rw [hhex] at hsecond
      cases hsecond
    · exact List.mem_cons_of_mem _ (ih h)
  | case3 high low bytes hnone ih =>
    rcases List.mem_cons.mp h with rfl | h
    · exact absurd rfl hne
    · exact List.mem_cons_of_mem _ (ih h)
  | case4 first bytes hpercent ih =>
    rcases List.mem_cons.mp h with rfl | h
    · exact List.mem_cons_self
    · exact List.mem_cons_of_mem _ (ih h)

end Url

namespace Host

variable {c : Char} {text : List Char}

/-- No host in ASCII has a blank or a control. -/
theorem isForbidden_of_le (h : c.toNat ≤ 0x20) : isForbidden c = true := by
  rcases Nat.lt_or_eq_of_le h with hlt | heq
  · simp [isForbidden, hlt]
  · rw [← Char.ofNat_toNat c, heq]
    decide

/-- **A name with a blank or a control is refused.** -/
theorem exists_named_eq_error (h : c.toNat ≤ 0x20) (hmem : c ∈ text) :
    ∃ error, named text = .error error := by
  unfold named
  split
  · exact ⟨_, rfl⟩
  · rename_i name hname
    obtain ⟨decoded, hdecoded, hname⟩ := Option.bind_eq_some_iff.mp hname
    rw [Utf8.decode?_eq_some_iff] at hdecoded
    have hascii : c.toNat < 0x80 := Nat.lt_of_le_of_lt h (by decide)
    have hbyte : (UInt8.ofNat c.toNat).toNat = c.toNat :=
      UInt8.toNat_ofNat_of_lt' (Nat.lt_trans hascii (by decide))
    have hhex : Text.hexDigit? (UInt8.ofNat c.toNat).toNat = none := by
      have h0 : ¬ 0x30 ≤ c.toNat := by omega
      have hA : ¬ 0x41 ≤ c.toNat := by omega
      have ha : ¬ 0x61 ≤ c.toNat := by omega
      simp [Text.hexDigit?, hbyte, h0, hA, ha]
    have hpercent : UInt8.ofNat c.toNat ≠ 0x25 := by
      intro heq
      rw [heq] at hbyte
      rw [← hbyte] at h
      exact absurd h (by decide)
    have hleft := Url.mem_percentDecode hhex hpercent ((Utf8.mem_encode_iff hascii).mpr hmem)
    rw [hdecoded, Utf8.mem_encode_iff hascii] at hleft
    have hname := Domain.mem_of_ascii? hname h hleft
    rw [if_pos (List.any_eq_true.mpr ⟨c, hname, isForbidden_of_le h⟩)]
    exact ⟨_, rfl⟩

/-- **A host that ends in a blank or a control is refused**, in brackets or not. -/
theorem exists_parse_eq_error (hlast : text.getLast? = some c) (h : c.toNat ≤ 0x20) :
    ∃ error, Host.parse text = .error error := by
  unfold Host.parse
  split
  · rename_i inner
    have hne : inner.getLast? ≠ some ']' := by
      intro hinner
      rw [List.getLast?_cons, hinner] at hlast
      obtain rfl : ']' = c := Option.some.inj hlast
      exact absurd h (by decide)
    simp only [bracketed, beq_false_of_ne hne]
    exact ⟨_, rfl⟩
  · exact exists_named_eq_error h (List.mem_of_getLast? hlast)

end Host

namespace Url

/-! ## Texts that are cut -/

section Cut
variable {α : Type} {p : α → Bool} {front rest : List α}

theorem takeWhile_append_of_head (h : ∀ a ∈ rest.head?, p a = false) :
    (front ++ rest).takeWhile p = front.takeWhile p := by
  induction front with
  | nil =>
    cases rest with
    | nil => rfl
    | cons a rest =>
      rw [List.nil_append, List.takeWhile_cons_of_neg (by simp [h a rfl])]
      rfl
  | cons a front ih => rw [List.cons_append, List.takeWhile_cons, List.takeWhile_cons, ih]

theorem dropWhile_append_of_head (h : ∀ a ∈ rest.head?, p a = false) :
    (front ++ rest).dropWhile p = front.dropWhile p ++ rest := by
  induction front with
  | nil =>
    cases rest with
    | nil => rfl
    | cons a rest => exact List.dropWhile_cons_of_neg (by simp [h a rfl])
  | cons a front ih =>
    rw [List.cons_append, List.dropWhile_cons, List.dropWhile_cons, ih]
    split <;> rfl

/-- The end of a text that is cut is the end of its second half, unless it is the cut. -/
theorem getLast?_of_append_cons {a b : α} (h : (front ++ a :: rest).getLast? = some b)
    (hne : b ≠ a) : rest.getLast? = some b := by
  rw [List.getLast?_append, List.getLast?_cons, Option.some_or] at h
  cases hrest : rest.getLast? with
  | none =>
    rw [hrest] at h
    exact absurd (Option.some.inj h).symm hne
  | some c =>
    rw [hrest] at h
    exact h

end Cut

section Authority
variable {scheme front rest : List Char} {inside : Bool}

/-- The port behind a host, and what follows it. -/
def portPart (scheme : List Char) : List Char → Except UrlError (Option Nat × List Char)
  | ':' :: digits => portSpan scheme digits
  | rest => .ok (none, rest)

/-- A URL of a special scheme for a user, with the host and the port that a text begins
with, and what follows these. -/
def located (scheme user text : List Char) : Except UrlError (Url × List Char) :=
  let name := percentEncode userSet (user.takeWhile (· ≠ ':'))
  let password := percentEncode userSet ((user.dropWhile (· ≠ ':')).drop 1)
  let span := hostSpan true false text
  if span.1 = [] then .error .emptyHost
  else do
    let host ← Host.parse span.1
    let (port, rest) ← portPart scheme span.2
    return (⟨scheme, name, password, some host, port, .segments [], none, none⟩, rest)

/-- **The part of a URL that names the host** of a special scheme. -/
def authority (scheme front : List Char) : Except UrlError Url :=
  let (user, text) := (splitLast '@' front).getD ([], front)
  (located scheme user text).map (·.1)

/-- A text that the host's part of a URL lies within. -/
def IsFront (front : List Char) : Prop := ∀ c ∈ front, endsAuthority true c = false

instance : DecidablePred IsFront := fun front =>
  List.decidableBAll (fun c => endsAuthority true c = false) front

/-- A text that begins where the host's part of a URL ends. -/
def IsRest (rest : List Char) : Prop := ∀ c ∈ rest.head?, endsAuthority true c = true

/-- A text is cut where the host's part ends. -/
theorem exists_front_rest (text : List Char) :
    ∃ front rest, text = front ++ rest ∧ IsFront front ∧ IsRest rest := by
  refine ⟨text.takeWhile fun c => !endsAuthority true c,
    text.dropWhile fun c => !endsAuthority true c, List.takeWhile_append_dropWhile.symm, ?_, ?_⟩
  · intro c hc
    have hc := List.mem_takeWhile_imp hc
    rwa [Bool.not_eq_true'] at hc
  · intro c hc
    have hhead := List.head?_dropWhile_not (fun c => !endsAuthority true c) text
    rw [hc] at hhead
    simpa using hhead

theorem IsFront.tail {c : Char} (h : IsFront (c :: front)) : IsFront front :=
  fun d hd => h d (List.mem_cons_of_mem c hd)

theorem IsFront.right {before : List Char} (h : IsFront (before ++ front)) : IsFront front :=
  fun c hc => h c (List.mem_append_right before hc)

/-- A user stands in front of the last sign for one. -/
theorem splitLast_eq_some {separator : Char} {text before behind : List Char}
    (h : splitLast separator text = some (before, behind)) :
    text = before ++ separator :: behind := by
  induction text generalizing before with
  | nil => cases h
  | cons c text ih =>
    unfold splitLast at h
    split at h
    · rename_i hsplit
      cases h
      rw [ih hsplit, List.cons_append]
    · split at h
      · rename_i hc
        cases h
        rw [hc]
        rfl
      · cases h

/-- A host does not hang on what follows the host's part. -/
theorem hostSpan_append (hfront : IsFront front) (hrest : IsRest rest) :
    hostSpan true inside (front ++ rest) =
      ((hostSpan true inside front).1, (hostSpan true inside front).2 ++ rest) := by
  induction front generalizing inside with
  | nil =>
    cases rest with
    | nil => rfl
    | cons c rest => simp [hostSpan, hrest c rfl]
  | cons c front ih =>
    rw [List.cons_append, hostSpan, hostSpan, ih hfront.tail]
    split <;> rfl

theorem hostSpan_fst_append_snd (special inside : Bool) (text : List Char) :
    (hostSpan special inside text).1 ++ (hostSpan special inside text).2 = text := by
  induction text generalizing inside with
  | nil => rfl
  | cons c text ih =>
    unfold hostSpan
    split
    · rfl
    · exact congrArg (c :: ·) (ih _)

/-- Before the path only a colon ends a host. -/
theorem head?_hostSpan_snd (inside : Bool) (hfront : IsFront front) :
    ∀ c ∈ (hostSpan true inside front).2.head?, c = ':' := by
  induction front generalizing inside with
  | nil => exact nofun
  | cons c front ih =>
    have hc := hfront c List.mem_cons_self
    unfold hostSpan
    split
    · rename_i hends
      rintro _ ⟨⟩
      simp only [hc, Bool.or_false, Bool.and_eq_true, beq_iff_eq] at hends
      exact hends.1
    · exact ih _ hfront.tail

theorem portSpan_eq_ok (hfront : IsFront front) {port : Option Nat} {behind : List Char}
    (h : portSpan scheme front = .ok (port, behind)) : ∀ c ∈ front, c.isDigit = true := by
  rw [← List.dropWhile_eq_nil_iff]
  cases hdrop : front.dropWhile Char.isDigit with
  | nil => rfl
  | cons c others =>
    have hc : endsAuthority true c = false :=
      hfront c (List.dropWhile_subset _ (hdrop ▸ List.mem_cons_self))
    simp only [portSpan, hdrop, List.head?_cons, Option.any_some] at h
    rw [if_pos] at h
    · cases h
    · simp only [Bool.or_eq_true]
      right
      rw [Bool.not_eq_true']
      exact hc

/-- **A port does not hang on what follows it.** -/
theorem portSpan_append (hfront : IsFront front) (hrest : IsRest rest) :
    portSpan scheme (front ++ rest) = (portSpan scheme front).map fun span => (span.1, rest) := by
  have hdigit : ∀ c ∈ rest.head?, c.isDigit = false := by
    intro c hc
    have hends := hrest c hc
    simp only [endsAuthority, isSeparator, isMark, Bool.true_and, Bool.or_eq_true,
      beq_iff_eq] at hends
    rcases hends with (rfl | rfl) | rfl | rfl <;> decide
  have hbehind : rest.head?.any (fun c => !(isSlash c || isMark c)) = false := by
    cases hhead : rest.head? with
    | none => rfl
    | some c =>
      rw [Option.any_some, Bool.not_eq_false']
      exact hrest c hhead
  cases hdrop : front.dropWhile Char.isDigit with
  | nil =>
    simp only [portSpan, takeWhile_append_of_head hdigit, dropWhile_append_of_head hdigit, hdrop,
      List.nil_append, List.head?_nil, Option.any_none, hbehind]
    split
    · rfl
    · split <;> rfl
  | cons c others =>
    have hc : (!(isSlash c || isMark c)) = true := by
      rw [Bool.not_eq_true']
      exact hfront c (List.dropWhile_subset _ (hdrop ▸ List.mem_cons_self))
    simp only [portSpan, takeWhile_append_of_head hdigit, dropWhile_append_of_head hdigit, hdrop,
      List.cons_append, List.head?_cons, Option.any_some, hc, Bool.or_true, if_true]
    rfl

/-- Behind a host, a port does not hang on what follows it either. -/
theorem portPart_append (scheme : List Char) (hfront : IsFront front)
    (hcolon : ∀ c ∈ front.head?, c = ':') (hrest : IsRest rest) :
    portPart scheme (front ++ rest) = (portPart scheme front).map fun span => (span.1, rest) := by
  cases front with
  | nil =>
    cases rest with
    | nil => rfl
    | cons c rest =>
      have hc : c ≠ ':' := by
        rintro rfl
        exact absurd (hrest _ rfl) (by decide)
      rw [List.nil_append, portPart]
      · rfl
      · rintro digits ⟨⟩
        exact hc rfl
  | cons c front =>
    obtain rfl := hcolon c rfl
    exact portSpan_append hfront.tail hrest

/-- **A host and its port do not hang on what follows them.** -/
theorem located_append (user : List Char) (hfront : IsFront front) (hrest : IsRest rest) :
    located scheme user (front ++ rest) =
      (located scheme user front).map fun found => (found.1, rest) := by
  have hbehind : IsFront (hostSpan true false front).2 := by
    rw [← hostSpan_fst_append_snd true false front] at hfront
    exact hfront.right
  have hport := portPart_append scheme hbehind (head?_hostSpan_snd false hfront) hrest
  simp only [located, hostSpan_append hfront hrest, hport]
  split
  · rfl
  · cases Host.parse (hostSpan true false front).1 with
    | error error => rfl
    | ok host => cases portPart scheme (hostSpan true false front).2 <;> rfl

/-- A host, a port and what follows them make a URL. -/
theorem map_located (scheme user text : List Char) :
    (located scheme user text).map (fun found => found.1.withHostPath found.2) =
      let name := percentEncode userSet (user.takeWhile (· ≠ ':'))
      let password := percentEncode userSet ((user.dropWhile (· ≠ ':')).drop 1)
      let span := hostSpan true false text
      if span.1 = [] then .error .emptyHost
      else do
        let host ← Host.parse span.1
        let (port, rest) ← match span.2 with
          | ':' :: rest => portSpan scheme rest
          | rest => .ok (none, rest)
        return Url.withHostPath
          ⟨scheme, name, password, some host, port, .segments [], none, none⟩ rest := by
  dsimp only [located]
  split
  · rfl
  · cases Host.parse (hostSpan true false text).1 with
    | error error => rfl
    | ok host =>
      generalize (hostSpan true false text).2 = behind
      cases behind with
      | nil => rfl
      | cons c digits =>
        by_cases hc : c = ':'
        · subst hc
          show Except.map _ (portSpan scheme digits >>= _) = portSpan scheme digits >>= _
          cases portSpan scheme digits <;> rfl
        · have hport : portPart scheme (c :: digits) = .ok (none, c :: digits) := by
            rw [portPart]
            rintro _ ⟨⟩
            exact hc rfl
          rw [hport]
          dsimp only [bind, Except.bind]
          split
          · rename_i heq
            exact absurd (List.cons.inj heq).1 hc
          · rfl

/-- **The host's part decides**: what follows it becomes path, query and fragment. -/
theorem afterSlashes_append (hspecial : isSpecial scheme = true) (hfront : IsFront front)
    (hrest : IsRest rest) :
    afterSlashes scheme (front ++ rest) = (authority scheme front).map (·.withHostPath rest) := by
  have hstop : ∀ c ∈ rest.head?, (!endsAuthority true c) = false := by
    intro c hc
    rw [hrest c hc]
    rfl
  have hall : ∀ c ∈ front, (!endsAuthority true c) = true := by
    intro c hc
    rw [hfront c hc]
    rfl
  have htake : (front ++ rest).takeWhile (fun c => !endsAuthority true c) = front := by
    rw [takeWhile_append_of_head hstop, List.takeWhile_eq_self_iff]
    exact hall
  have hdrop : (front ++ rest).dropWhile (fun c => !endsAuthority true c) = rest := by
    rw [dropWhile_append_of_head hstop, List.dropWhile_eq_nil_iff.mpr hall, List.nil_append]
  have hmap : ∀ user text, IsFront text →
      ((located scheme user text).map (·.1)).map (·.withHostPath rest) =
        (located scheme user (text ++ rest)).map fun found => found.1.withHostPath found.2 := by
    intro user text htext
    rw [located_append user htext hrest]
    cases located scheme user text <;> rfl
  rw [afterSlashes, authority, hspecial]
  dsimp only
  rw [htake, hdrop]
  cases hsplit : splitLast '@' front with
  | none =>
    dsimp only [Option.getD_none]
    rw [hmap [] front hfront, map_located]
    refine Eq.trans (if_neg ?_) (if_congr ?_ rfl rfl)
    · simp
    · simp
  | some split =>
    obtain ⟨user, text⟩ := split
    have htext : IsFront text := by
      rw [splitLast_eq_some hsplit] at hfront
      exact hfront.right.tail
    dsimp only [Option.getD_some]
    rw [hmap user text htext, map_located]
    -- Behind the user there must be something before the path begins.
    cases text with
    | nil =>
      have hspan : hostSpan true false ([] ++ rest) = ([], rest) := hostSpan_append htext hrest
      rw [hspan]
      simp
    | cons c text =>
      have hc := htext c List.mem_cons_self
      refine Eq.trans (if_neg ?_) (if_congr ?_ rfl rfl)
      · simp [hc]
      · simp

/-- A port that ends in a blank or a control is refused. -/
theorem exists_portSpan_eq_error (hfront : IsFront front) {c : Char}
    (hlast : front.getLast? = some c) (hc : c.toNat ≤ 0x20) :
    ∃ error, portSpan scheme front = .error error := by
  cases hport : portSpan scheme front with
  | error error => exact ⟨error, rfl⟩
  | ok span =>
    have hdigit := portSpan_eq_ok hfront hport c (List.mem_of_getLast? hlast)
    simp only [Char.isDigit, Bool.and_eq_true, decide_eq_true_eq,
      UInt32.le_iff_toNat_le] at hdigit
    exact absurd (Nat.le_trans hdigit.1 hc) (by decide)

theorem exists_located_eq_error (user : List Char) (hfront : IsFront front) {c : Char}
    (hlast : front.getLast? = some c) (hc : c.toNat ≤ 0x20) :
    ∃ error, located scheme user front = .error error := by
  have hsplit := hostSpan_fst_append_snd true false front
  have hcolon := head?_hostSpan_snd false hfront
  dsimp only [located]
  generalize hostSpan true false front = span at hsplit hcolon ⊢
  obtain ⟨name, behind⟩ := span
  dsimp only at hsplit hcolon ⊢
  split
  · exact ⟨_, rfl⟩
  · -- Either the host goes up to the end, or a port does.
    cases behind with
    | nil =>
      rw [List.append_nil] at hsplit
      obtain ⟨error, herror⟩ := Host.exists_parse_eq_error (hsplit ▸ hlast) hc
      exact ⟨error, by rw [herror]; rfl⟩
    | cons d digits =>
      obtain rfl := hcolon d rfl
      rw [← hsplit] at hfront hlast
      have hne : c ≠ ':' := by
        rintro rfl
        exact absurd hc (by decide)
      obtain ⟨error, herror⟩ : ∃ error, portSpan scheme digits = .error error :=
        exists_portSpan_eq_error hfront.right.tail (getLast?_of_append_cons hlast hne) hc
      cases Host.parse name with
      | error error => exact ⟨error, rfl⟩
      | ok host => exact ⟨error, by rw [portPart, herror]; rfl⟩

/-- **A blank or a control at the end of the host's part is an error.** -/
theorem exists_authority_eq_error (hfront : IsFront front) {c : Char}
    (hlast : front.getLast? = some c) (hc : c.toNat ≤ 0x20) :
    ∃ error, authority scheme front = .error error := by
  have hmap : ∀ {user text}, (∃ error, located scheme user text = .error error) →
      ∃ error, (located scheme user text).map (·.1) = .error error := by
    rintro user text ⟨error, herror⟩
    exact ⟨error, by rw [herror]; rfl⟩
  rw [authority]
  cases hsplit : splitLast '@' front with
  | none => exact hmap (exists_located_eq_error [] hfront hlast hc)
  | some split =>
    obtain ⟨user, text⟩ := split
    rw [splitLast_eq_some hsplit] at hfront hlast
    have hne : c ≠ '@' := by
      rintro rfl
      exact absurd hc (by decide)
    exact hmap (exists_located_eq_error user hfront.right.tail
      (getLast?_of_append_cons hlast hne) hc)

end Authority

end Url

end LiveRoom
