import DemoService.AddrReaders
import DemoService.RustBreaks
import DemoService.SipMessage

/-! Contact values put together from a URI, and the addresses that the two Contact-target
parsers make of them. -/

namespace DemoService.Sip

open RustText NetAddr

/-! ### Contact values -/

/-- Letters, digits and the three marks of DNS names. -/
def isNameChar (c : Char) : Bool := c.isAlphanum || c = '-' || c = '.' || c = '_'

inductive ContactHost
  | ipv4 (text : Str) (a b c d : Nat) (literal : parseIpAddr text = some (.v4 a b c d))
  | ipv6 (text : Str) (segments : List Nat) (literal : parseIpAddr text = some (.v6 segments))
  | name (text : Str) (nonempty : text ≠ []) (chars : ∀ c ∈ text, isNameChar c = true)
      (no_literal : parseIpAddr text = none)

def ContactHost.text : ContactHost → Str
  | .ipv4 text .. => text
  | .ipv6 text .. => '[' :: text ++ [']']
  | .name text .. => text

/-- No whitespace, and none of the marks around a URI and its user part. -/
def Unmarked (s : Str) : Prop :=
  ∀ c ∈ s, ¬ isWhitespace c = true ∧ c ≠ '<' ∧ c ≠ '>' ∧ c ≠ '@'

instance (s : Str) : Decidable (Unmarked s) := inferInstanceAs (Decidable (∀ c ∈ s, _))

structure ContactPort where
  leadingZeros : Nat
  number : Nat
  number_lt : number < 65536

def ContactPort.text (port : ContactPort) : Str := ':' :: decimal port.leadingZeros port.number

/-- `sip:[user@]host[:port][;params]`. -/
structure ContactUri where
  user : Option Str
  host : ContactHost
  port : Option ContactPort
  params : Option Str
  user_unmarked : ∀ text ∈ user, Unmarked text
  params_unmarked : ∀ text ∈ params, Unmarked text

namespace ContactUri

def hostText (uri : ContactUri) : Str := uri.host.text ++ uri.port.elim [] ContactPort.text

def tail (uri : ContactUri) : Str := uri.hostText ++ uri.params.elim [] (';' :: ·)

def text (uri : ContactUri) : Str := "sip:".toList ++ uri.user.elim [] (· ++ ['@']) ++ uri.tail

-- by delta, as the equation that Lean makes for the definition evaluates the scheme
theorem text_eq (uri : ContactUri) :
    uri.text = "sip:".toList ++ uri.user.elim [] (· ++ ['@']) ++ uri.tail := by
  delta text
  rfl

/-- The resolution of the host, with the explicit port if there is one. -/
def target (uri : ContactUri) (resolve : Resolver) (defaultPort : Nat) : Option SocketAddr :=
  let port := uri.port.elim defaultPort ContactPort.number
  match uri.host with
  | .ipv4 _ a b c d _ => some (.new (.v4 a b c d) port)
  | .ipv6 _ segments _ => some (.new (.v6 segments) port)
  | .name text .. => (resolve text port).bind List.head?

/-- A DNS name with an explicit port. -/
def NamesPort (uri : ContactUri) : Prop :=
  match uri.host with
  | .name .. => uri.port.isSome = true
  | _ => False

end ContactUri

inductive Contact
  | bare (uri : ContactUri)
  | angled (display : Str) (uri : ContactUri) (headerParams : Str)

namespace Contact

def uri : Contact → ContactUri
  | .bare uri => uri
  | .angled _ uri _ => uri

def text : Contact → Str
  | .bare uri => uri.text
  | .angled display uri headerParams => display ++ '<' :: uri.text ++ '>' :: headerParams

/-- Whatever the names stand for, both parsers return the target of the URI. -/
def TargetFound (contact : Contact) (defaultPort : Nat) : Prop :=
  ∀ resolve,
    parseSocketAddrFromSipUri resolve contact.text defaultPort =
        .ok (contact.uri.target resolve defaultPort) ∧
      parseSipTargetFromContact resolve contact.text defaultPort =
        .ok (contact.uri.target resolve defaultPort)

end Contact

/-- The text after the first `<` and up to the next `>`. -/
def enclosed (value : Str) : Str := ((value.dropWhile (· ≠ '<')).tail).takeWhile (· ≠ '>')

/-- A display name without `>`, and without `<` if the URI has no user part. -/
def PlainDisplay (display : Str) (uri : ContactUri) : Prop :=
  '>' ∉ display ∧ ('<' ∈ display → uri.user.isSome = true)

instance (display : Str) (uri : ContactUri) : Decidable (PlainDisplay display uri) :=
  inferInstanceAs (Decidable (_ ∧ _))

namespace Contact

def HasPlainDisplay : Contact → Prop
  | bare _ => True
  | angled display uri _ => PlainDisplay display uri

/-- Nothing before the URI is taken for its start, and the URI names no port after a DNS name. -/
def Unambiguous (contact : Contact) : Prop := contact.HasPlainDisplay ∧ ¬ contact.uri.NamesPort

end Contact

/-! ### Cutting the host out -/

theorem rsplitOnce_eq_none {c : Char} {s : Str} (h : c ∉ s) : rsplitOnce c s = none := by
  induction s with
  | nil => rfl
  | cons d s ih =>
    rw [List.mem_cons, not_or] at h
    rw [rsplitOnce, ih h.2]
    exact if_neg fun hd => h.1 hd.symm

theorem rsplitOnce_append {c : Char} {t : Str} (h : c ∉ t) (s : Str) :
    rsplitOnce c (s ++ c :: t) = some (s, t) := by
  induction s with
  | nil =>
    rw [List.nil_append, rsplitOnce, rsplitOnce_eq_none h]
    exact if_pos rfl
  | cons d s ih => rw [List.cons_append, rsplitOnce, ih]

theorem splitChar_head {c : Char} {s : Str} (h : c ∉ s) (rest : Option Str) :
    (splitChar c (s ++ rest.elim [] (c :: ·))).head? = some s := by
  have hfield : ∀ d ∈ s, ¬ decide (d = c) = true := fun d hd => by
    simpa using fun hc : d = c => h (hc ▸ hd)
  cases rest with
  | none =>
    change (splitChar c (s ++ [])).head? = _
    rw [List.append_nil, splitChar, splitBy_last hfield]
    rfl
  | some rest =>
    change (splitChar c (s ++ c :: rest)).head? = _
    rw [splitChar, splitBy_field hfield (decide_eq_true rfl)]
    rfl

theorem find_append {c : Char} {s : Str} (h : c ∉ s) (t : Str) :
    find c (s ++ c :: t) = some (utf8Len s) := by
  induction s with
  | nil => exact if_pos rfl
  | cons d s ih =>
    rw [List.mem_cons, not_or] at h
    have hd : ¬ d = c := fun hd => h.1 hd.symm
    rw [List.cons_append, find, if_neg hd, ih h.2, utf8Len_cons, Option.map_some, Nat.add_comm]

/-- The text between the first angle brackets, trimmed. -/
theorem extractUriFromNameAddr_angled {front inner : Str} (hopen : '<' ∉ front)
    (hclose : '>' ∉ front) (hinner : '>' ∉ inner) (back : Str) :
    extractUriFromNameAddr (front ++ '<' :: inner ++ '>' :: back) = .ok (some (trim inner)) := by
  have hstart : find '<' (front ++ '<' :: inner ++ '>' :: back) = some (utf8Len front) := by
    rw [List.append_assoc]
    exact find_append hopen _
  have hstop : find '>' (front ++ '<' :: inner ++ '>' :: back) =
      some (utf8Len (front ++ '<' :: inner)) := by
    refine find_append ?_ back
    simp [hclose, hinner]
  have hslice : slice (front ++ '<' :: inner ++ '>' :: back) (utf8Len front + 1)
      (utf8Len (front ++ '<' :: inner)) = .ok inner := by
    have hbetween := slice_append (front ++ ['<']) inner ('>' :: back)
    have hone : utf8Len ['<'] = 1 := rfl
    have hsum : utf8Len front + (Char.utf8Size '<' + utf8Len inner) =
        utf8Len front + 1 + utf8Len inner := by
      have hsize : Char.utf8Size '<' = 1 := rfl
      omega
    rw [utf8Len_append, utf8Len_cons, hsum]
    rw [utf8Len_append, hone] at hbetween
    simpa using hbetween
  rw [extractUriFromNameAddr, hstart, hstop]
  simp only [hslice]
  rfl

theorem extractUriFromNameAddr_bare {value : Str} (h : '<' ∉ value) :
    extractUriFromNameAddr value = .ok (some (trim value)) := by
  have hfind : find '<' value = none := by
    cases hfound : find '<' value with
    | none => rfl
    | some n =>
      obtain ⟨front, back, rfl, _⟩ := find_eq_some hfound
      exact absurd (List.mem_append_right _ List.mem_cons_self) h
  rw [extractUriFromNameAddr, hfind]
  rfl

/-! ### The text of a URI -/

theorem hostText_char (uri : ContactUri) {c : Char} (hc : c ∈ uri.hostText) :
    c.isAlphanum = true ∨ c ∈ ".:-_[]".toList := by
  have hliteral : ∀ {text : Str} {ip : IpAddr}, parseIpAddr text = some ip → c ∈ text →
      c.isAlphanum = true ∨ c ∈ ".:-_[]".toList := by
    intro text ip h hmem
    rcases literal_char h hmem with halnum | rfl | rfl
    · exact .inl halnum
    · exact .inr (by decide)
    · exact .inr (by decide)
  rcases List.mem_append.mp hc with hc | hc
  · cases hhost : uri.host with
    | ipv4 text _ _ _ _ literal =>
      rw [hhost] at hc
      exact hliteral literal hc
    | ipv6 text _ literal =>
      rw [hhost] at hc
      rcases List.mem_append.mp hc with hc | hc
      · rcases List.mem_cons.mp hc with rfl | hc
        · exact .inr (by decide)
        · exact hliteral literal hc
      · rw [List.mem_singleton.mp hc]
        exact .inr (by decide)
    | name text _ chars _ =>
      rw [hhost] at hc
      have hname := chars c hc
      simp only [isNameChar, Bool.or_eq_true, decide_eq_true_eq] at hname
      rcases hname with ((halnum | rfl) | rfl) | rfl
      · exact .inl halnum
      · exact .inr (by decide)
      · exact .inr (by decide)
      · exact .inr (by decide)
  · cases hport : uri.port with
    | none =>
      rw [hport] at hc
      cases hc
    | some port =>
      rw [hport] at hc
      rcases List.mem_cons.mp hc with rfl | hc
      · exact .inr (by decide)
      · have hdigit : c.isDigit = true := isDigit_of_mem_decimal hc
        exact .inl (by simp [Char.isAlphanum, hdigit])

theorem hostText_notMem (uri : ContactUri) {c : Char} (halnum : ¬ c.isAlphanum = true)
    (hmark : c ∉ ".:-_[]".toList) : c ∉ uri.hostText := fun hc =>
  (hostText_char uri hc).elim halnum hmark

theorem Unmarked.append {s t : Str} (hs : Unmarked s) (ht : Unmarked t) : Unmarked (s ++ t) :=
  fun c hc => (List.mem_append.mp hc).elim (hs c) (ht c)

theorem hostText_unmarked (uri : ContactUri) : Unmarked uri.hostText := by
  intro c hc
  have hmarks : ∀ d ∈ ".:-_[]".toList, ¬ isWhitespace d = true := by decide
  refine ⟨?_, ?_, ?_, ?_⟩
  · rcases hostText_char uri hc with halnum | hmark
    · exact not_isWhitespace_of_isAlphanum halnum
    · exact hmarks c hmark
  · rintro rfl
    exact hostText_notMem uri (by decide) (by decide) hc
  · rintro rfl
    exact hostText_notMem uri (by decide) (by decide) hc
  · rintro rfl
    exact hostText_notMem uri (by decide) (by decide) hc

theorem tail_unmarked (uri : ContactUri) : Unmarked uri.tail := by
  refine (hostText_unmarked uri).append ?_
  cases hparams : uri.params with
  | none => exact fun c hc => absurd hc List.not_mem_nil
  | some params =>
    intro c hc
    rcases List.mem_cons.mp hc with rfl | hc
    · exact ⟨by decide, by decide, by decide, by decide⟩
    · exact uri.params_unmarked params hparams c hc

theorem uri_text_clean (uri : ContactUri) :
    ∀ c ∈ uri.text, ¬ isWhitespace c = true ∧ c ≠ '<' ∧ c ≠ '>' := by
  have hscheme : ∀ c ∈ "sip:".toList, ¬ isWhitespace c = true ∧ c ≠ '<' ∧ c ≠ '>' := by decide
  intro c hc
  rcases List.mem_append.mp hc with hc | hc
  · rcases List.mem_append.mp hc with hc | hc
    · exact hscheme c hc
    · cases huser : uri.user with
      | none =>
        rw [huser] at hc
        cases hc
      | some user =>
        rw [huser] at hc
        rcases List.mem_append.mp hc with hc | hc
        · obtain ⟨hspace, hopen, hclose, _⟩ := uri.user_unmarked user huser c hc
          exact ⟨hspace, hopen, hclose⟩
        · rw [List.mem_singleton.mp hc]
          exact ⟨by decide, by decide, by decide⟩
  · obtain ⟨hspace, hopen, hclose, _⟩ := tail_unmarked uri c hc
    exact ⟨hspace, hopen, hclose⟩

/-- A prefix without the mark is taken off the text before the mark. -/
theorem stripPrefix_before {p : Str} {c : Char} (h : c ∉ p) (front back : Str) :
    ∃ rest, (stripPrefix p (front ++ c :: back)).getD (front ++ c :: back) =
      rest ++ c :: back := by
  rw [stripPrefix]
  split
  · rename_i hprefix
    obtain ⟨rest, hrest⟩ := List.isPrefixOf_iff_prefix.mp hprefix
    rcases List.append_eq_append_iff.mp hrest with ⟨mid, rfl, _⟩ | ⟨mid, rfl, hmid⟩
    · refine ⟨mid, ?_⟩
      rw [Option.getD_some, List.append_assoc, List.drop_left]
    · cases mid with
      | nil =>
        refine ⟨[], ?_⟩
        rw [Option.getD_some, List.append_nil, List.drop_left]
        rfl
      | cons d mid =>
        obtain ⟨rfl, _⟩ := List.cons.inj hmid
        exact absurd (List.mem_append_right _ List.mem_cons_self) h
  · exact ⟨front, rfl⟩

/-- Behind an `@` that no other follows, the host and its port are cut out. -/
theorem uriHostPort_after_user (uri : ContactUri) (front : Str) :
    uriHostPort (front ++ '@' :: uri.tail) = uri.hostText := by
  have hat : '@' ∉ uri.tail := fun hc => (tail_unmarked uri '@' hc).2.2.2 rfl
  have hsemi : ';' ∉ uri.hostText := hostText_notMem uri (by decide) (by decide)
  obtain ⟨rest, hrest⟩ : ∃ rest, (stripPrefix "sip:".toList (front ++ '@' :: uri.tail)).getD
      (front ++ '@' :: uri.tail) = rest ++ '@' :: uri.tail :=
    stripPrefix_before (by decide) front uri.tail
  rw [uriHostPort, hrest, rsplitOnce_append hat, Option.map_some, Option.getD_some,
    ContactUri.tail, splitChar_head hsemi, Option.getD_some]

theorem text_of_user {uri : ContactUri} {user : Str} (h : uri.user = some user) :
    uri.text = "sip:".toList ++ user ++ '@' :: uri.tail := by
  rw [ContactUri.text_eq, h, Option.elim_some, ← List.append_assoc, List.append_assoc _ ['@']]
  rfl

theorem uriHostPort_text (uri : ContactUri) : uriHostPort uri.text = uri.hostText := by
  cases huser : uri.user with
  | some user =>
    rw [text_of_user huser]
    exact uriHostPort_after_user uri _
  | none =>
    have htext : uri.text = "sip:".toList ++ uri.tail := by
      rw [ContactUri.text_eq, huser, Option.elim_none, List.append_nil]
    have hat : '@' ∉ uri.tail := fun hc => (tail_unmarked uri '@' hc).2.2.2 rfl
    have hsemi : ';' ∉ uri.hostText := hostText_notMem uri (by decide) (by decide)
    rw [htext, uriHostPort, stripPrefix_append, Option.getD_some, rsplitOnce_eq_none hat,
      Option.map_none, Option.getD_none, ContactUri.tail, splitChar_head hsemi, Option.getD_some]

/-! ### The address of a host -/

theorem splits_port (host : Str) (n : Nat) :
    rsplitOnce ':' (host ++ [':'] ++ ofNat n) = some (host, ofNat n) := by
  have hcolon : ':' ∉ ofNat n := fun hc => absurd (isDigit_of_mem_ofNat hc) (by decide)
  rw [List.append_assoc]
  exact rsplitOnce_append hcolon host

section HostPort

variable (resolve : Resolver) {s : Str} (defaultPort : Nat)

theorem parseHostPort_addr {addr : SocketAddr} (h : parseSocketAddr s = some addr) :
    parseHostPort resolve s defaultPort = some addr := by
  rw [parseHostPort, h]

theorem parseHostPort_ip {ip : IpAddr} (haddr : parseSocketAddr s = none)
    (h : parseIpAddr s = some ip) :
    parseHostPort resolve s defaultPort = some (.new ip defaultPort) := by
  rw [parseHostPort, haddr, h]

theorem parseHostPort_lookup (haddr : parseSocketAddr s = none) (hip : parseIpAddr s = none) :
    parseHostPort resolve s defaultPort =
      (toSocketAddrs resolve (s ++ [':'] ++ ofNat defaultPort)).bind List.head? := by
  rw [parseHostPort, haddr, hip]

end HostPort

theorem parseHostPort_hostText {uri : ContactUri} (h : ¬ uri.NamesPort) {defaultPort : Nat}
    (hdefault : defaultPort < 65536) (resolve : Resolver) :
    parseHostPort resolve uri.hostText defaultPort = uri.target resolve defaultPort := by
  rw [ContactUri.target]
  cases hhost : uri.host with
  | ipv4 text a b c d literal =>
    cases hport : uri.port with
    | some port =>
      have htext : uri.hostText = text ++ port.text := by rw [ContactUri.hostText, hhost, hport]; rfl
      rw [htext]
      exact parseHostPort_addr resolve defaultPort
        (parseSocketAddr_ipv4 literal port.number_lt port.leadingZeros)
    | none =>
      have htext : uri.hostText = text := by
        rw [ContactUri.hostText, hhost, hport]
        exact List.append_nil text
      have hcolon : ':' ∉ text := notMem_of_stopsAt (stopsAt_ipv4Addr (by decide) (by decide))
        (readIpv4Addr_of_parse literal)
      have hopen : text.head? ≠ some '[' := fun hhead =>
        absurd (literal_char literal (List.mem_of_head? hhead)) (by decide)
      rw [htext]
      exact parseHostPort_ip resolve defaultPort (parseSocketAddr_no_colon hcolon hopen) literal
  | ipv6 text segments literal =>
    cases hport : uri.port with
    | some port =>
      have htext : uri.hostText = '[' :: text ++ ']' :: port.text := by
        rw [ContactUri.hostText, hhost, hport]
        exact List.append_assoc _ _ _
      rw [htext]
      exact parseHostPort_addr resolve defaultPort
        (parseSocketAddr_ipv6 literal port.number_lt port.leadingZeros)
    | none =>
      have htext : uri.hostText = '[' :: text ++ [']'] := by
        rw [ContactUri.hostText, hhost, hport]
        exact List.append_nil _
      have hport : parseSocketAddr ('[' :: text ++ [']'] ++ [':'] ++ ofNat defaultPort) =
          some (.new (.v6 segments) defaultPort) := by
        rw [List.append_assoc, List.append_assoc]
        exact parseSocketAddr_ipv6 literal hdefault 0
      rw [htext, parseHostPort_lookup resolve defaultPort (parseSocketAddr_brackets literal)
        (parseIpAddr_brackets _), toSocketAddrs_socketAddr resolve hport]
      rfl
  | name text nonempty chars no_literal =>
    cases hport : uri.port with
    | some port =>
      refine absurd ?_ h
      rw [ContactUri.NamesPort, hhost, hport]
      rfl
    | none =>
      have htext : uri.hostText = text := by
        rw [ContactUri.hostText, hhost, hport]
        exact List.append_nil text
      have hcolon : ':' ∉ text := fun hc => absurd (chars ':' hc) (by decide)
      have hopen : text.head? ≠ some '[' := fun hhead =>
        absurd (chars '[' (List.mem_of_head? hhead)) (by decide)
      have haddr : parseSocketAddr (text ++ [':'] ++ ofNat defaultPort) = none := by
        rw [List.append_assoc]
        exact parseSocketAddr_not_literal no_literal nonempty hcolon hopen _
      rw [htext, parseHostPort_lookup resolve defaultPort (parseSocketAddr_no_colon hcolon hopen)
        no_literal, toSocketAddrs, haddr, splits_port]
      change ((parseU16 (ofNat defaultPort)).bind _).bind _ = _
      rw [parseU16_ofNat hdefault]
      rfl

/-- What is made of a text depends on the resolver only through the answers for that text. -/
theorem parseHostPort_congr {first second : Resolver} {s : Str}
    (h : first s = second s) (defaultPort : Nat) :
    parseHostPort first s defaultPort = parseHostPort second s defaultPort := by
  have hsocket : toSocketAddrs first (s ++ [':'] ++ ofNat defaultPort) =
      toSocketAddrs second (s ++ [':'] ++ ofNat defaultPort) := by
    rw [toSocketAddrs, toSocketAddrs, splits_port]
    simp [h]
  rw [parseHostPort, parseHostPort, hsocket]

/-- The name that is looked up for a DNS name with a port has the port in it. -/
theorem parseHostPort_namesPort {uri : ContactUri} (h : uri.NamesPort) (defaultPort : Nat) :
    ¬ ∀ resolve, parseHostPort resolve uri.hostText defaultPort =
      uri.target resolve defaultPort := by
  intro hall
  rw [ContactUri.NamesPort] at h
  cases hhost : uri.host with
  | ipv4 text a b c d literal => rw [hhost] at h; exact h
  | ipv6 text segments literal => rw [hhost] at h; exact h
  | name text nonempty chars no_literal =>
    rw [hhost] at h
    obtain ⟨port, hport⟩ := Option.isSome_iff_exists.mp h
    have htext : uri.hostText ≠ text := by
      rw [ContactUri.hostText, hhost, hport]
      exact fun heq => absurd (List.append_right_eq_self.mp heq) (List.cons_ne_nil _ _)
    let answer : SocketAddr := .new (.v4 0 0 0 0) 0
    let known : Resolver := fun name _ => if name = text then some [answer] else none
    let unknown : Resolver := fun _ _ => none
    have hsame : known uri.hostText = unknown uri.hostText := funext fun _ => if_neg htext
    have hcode := parseHostPort_congr hsame defaultPort
    have hknown : uri.target known defaultPort = some answer := by
      rw [ContactUri.target, hhost]
      simp [known]
    have hunknown : uri.target unknown defaultPort = none := by
      rw [ContactUri.target, hhost]
      rfl
    rw [hall known, hall unknown, hknown, hunknown] at hcode
    cases hcode

/-! ### The target of a Contact value -/

theorem dropWhile_ne {c : Char} {front : Str} (h : c ∉ front) (rest : Str) :
    (front ++ c :: rest).dropWhile (· ≠ c) = c :: rest := by
  induction front with
  | nil => exact List.dropWhile_cons_of_neg (by simp)
  | cons d front ih =>
    rw [List.mem_cons, not_or] at h
    have hd : decide (d ≠ c) = true := decide_eq_true fun hd => h.1 hd.symm
    rw [List.cons_append, List.dropWhile_cons, if_pos hd, ih h.2]

theorem takeWhile_ne {c : Char} {front : Str} (h : c ∉ front) (rest : Str) :
    (front ++ c :: rest).takeWhile (· ≠ c) = front := by
  have hall : front.takeWhile (· ≠ c) = front :=
    List.takeWhile_eq_self_iff.mpr fun d hd => decide_eq_true fun hc => h (hc ▸ hd)
  rw [takeWhile_append_cons (by simp), hall]

theorem enclosed_append {front : Str} (h : '<' ∉ front) (rest : Str) :
    enclosed (front ++ '<' :: rest) = rest.takeWhile (· ≠ '>') := by
  rw [enclosed, dropWhile_ne h, List.tail_cons]

theorem extractUriFromNameAddr_enclosed {front rest : Str} (hopen : '<' ∉ front)
    (hclose : '>' ∉ front) (hrest : '>' ∈ rest) :
    extractUriFromNameAddr (front ++ '<' :: rest) =
      .ok (some (trim (enclosed (front ++ '<' :: rest)))) := by
  obtain ⟨inner, back, rfl, hinner⟩ := List.eq_append_cons_of_mem hrest
  have hvalue := extractUriFromNameAddr_angled hopen hclose hinner back
  rw [enclosed_append hopen, takeWhile_ne hinner, ← hvalue, List.append_assoc]
  rfl

theorem targetFound_iff {contact : Contact} {uri : Str}
    (h : extractUriFromNameAddr contact.text = .ok (some uri)) (defaultPort : Nat) :
    contact.TargetFound defaultPort ↔ ∀ resolve,
      parseHostPort resolve (uriHostPort uri) defaultPort =
        contact.uri.target resolve defaultPort := by
  have hfirst : ∀ resolve, parseSocketAddrFromSipUri resolve contact.text defaultPort =
      .ok (parseHostPort resolve (uriHostPort uri) defaultPort) := by
    intro resolve
    rw [parseSocketAddrFromSipUri, h]
    rfl
  have hsecond : ∀ resolve, parseSipTargetFromContact resolve contact.text defaultPort =
      .ok (parseHostPort resolve (uriHostPort uri) defaultPort) := by
    intro resolve
    rw [parseSipTargetFromContact, h]
    rfl
  rw [Contact.TargetFound]
  simp only [hfirst, hsecond, Except.ok.injEq, and_self]

/-- A host that was cut out leads to the target unless it is a name with a port. -/
theorem hostText_leads_iff (uri : ContactUri) {defaultPort : Nat} (hdefault : defaultPort < 65536) :
    (∀ resolve, parseHostPort resolve uri.hostText defaultPort = uri.target resolve defaultPort) ↔
      ¬ uri.NamesPort :=
  ⟨fun hall h => parseHostPort_namesPort h defaultPort hall,
    fun h => parseHostPort_hostText h hdefault⟩

theorem trim_eq_self {s : Str} (h : ∀ c ∈ s, ¬ isWhitespace c = true) : trim s = s :=
  trim_of_trimmed ⟨fun c hc => h c (List.mem_of_head? hc),
    fun c hc => h c (List.mem_of_getLast? hc)⟩

theorem trim_uri_text (uri : ContactUri) : trim uri.text = uri.text :=
  trim_eq_self fun c hc => (uri_text_clean uri c hc).1

/-- What stands before a URI with a user part makes no difference. -/
theorem uriHostPort_behind {uri : ContactUri} (h : uri.user.isSome = true) (front : Str) :
    uriHostPort (trim (front ++ uri.text)) = uri.hostText := by
  obtain ⟨user, huser⟩ := Option.isSome_iff_exists.mp h
  have htext : front ++ uri.text = front ++ "sip:".toList ++ user ++ '@' :: uri.tail := by
    rw [text_of_user huser, ← List.append_assoc, ← List.append_assoc]
  have htail : uri.tail.rdropWhile isWhitespace = uri.tail :=
    List.rdropWhile_eq_self_iff.mpr fun hne => (tail_unmarked uri _ (List.getLast_mem hne)).1
  rw [htext, trim_around (by decide), htail]
  exact uriHostPort_after_user uri _

/-- The first `<` of a value with angle brackets. -/
theorem first_open (display : Str) (uri : ContactUri) (headerParams : Str) :
    ∃ rest, (Contact.angled display uri headerParams).text =
        display.takeWhile (· ≠ '<') ++ '<' :: rest ∧ '<' ∉ display.takeWhile (· ≠ '<') ∧
      '>' ∈ rest := by
  have hclose : '>' ∈ uri.text ++ '>' :: headerParams :=
    List.mem_append_right _ List.mem_cons_self
  have htext : (Contact.angled display uri headerParams).text =
      display ++ '<' :: (uri.text ++ '>' :: headerParams) := List.append_assoc _ _ _
  by_cases hopen : '<' ∈ display
  · obtain ⟨front, rest, rfl, hfront⟩ := List.eq_append_cons_of_mem hopen
    rw [takeWhile_ne hfront, htext, List.append_assoc]
    exact ⟨_, rfl, hfront, List.mem_append_right _ (List.mem_cons_of_mem _ hclose)⟩
  · have hall : display.takeWhile (· ≠ '<') = display :=
      List.takeWhile_eq_self_iff.mpr fun c hc => decide_eq_true fun heq => hopen (heq ▸ hc)
    rw [hall]
    exact ⟨_, htext, hopen, hclose⟩

theorem extract_angled {display : Str} {uri : ContactUri} {headerParams : Str}
    (h : '>' ∉ display.takeWhile (· ≠ '<')) :
    extractUriFromNameAddr (Contact.angled display uri headerParams).text =
      .ok (some (trim (enclosed (Contact.angled display uri headerParams).text))) := by
  obtain ⟨rest, htext, hopen, hrest⟩ := first_open display uri headerParams
  rw [htext]
  exact extractUriFromNameAddr_enclosed hopen h hrest

theorem anglesReversed_angled {display : Str} {uri : ContactUri} {headerParams : Str}
    (h : '>' ∈ display.takeWhile (· ≠ '<')) :
    AnglesReversed (Contact.angled display uri headerParams).text := by
  obtain ⟨rest, htext, hopen, _⟩ := first_open display uri headerParams
  obtain ⟨front, back, hfront, hclose⟩ := List.eq_append_cons_of_mem h
  rw [hfront] at htext hopen
  have hfind : find '>' (front ++ '>' :: back ++ '<' :: rest) = some (utf8Len front) := by
    rw [List.append_assoc]
    exact find_append hclose _
  have hone : Char.utf8Size '>' = 1 := rfl
  refine ⟨utf8Len (front ++ '>' :: back), utf8Len front, ?_, ?_, ?_⟩
  · rw [htext]
    exact find_append hopen rest
  · rw [htext]
    exact hfind
  · rw [utf8Len_append, utf8Len_cons]
    omega

/-- With a plain display name, the host and port of the URI are cut out. -/
theorem uriHostPort_plain {display : Str} {uri : ContactUri} (h : PlainDisplay display uri)
    (headerParams : Str) :
    uriHostPort (trim (enclosed (Contact.angled display uri headerParams).text)) =
      uri.hostText := by
  have hclose : '>' ∉ uri.text := fun hc => (uri_text_clean uri '>' hc).2.2 rfl
  have htext : (Contact.angled display uri headerParams).text =
      display ++ '<' :: (uri.text ++ '>' :: headerParams) := List.append_assoc _ _ _
  rw [htext]
  by_cases hopen : '<' ∈ display
  · obtain ⟨front, rest, rfl, hfront⟩ := List.eq_append_cons_of_mem hopen
    have hrest : '>' ∉ rest ++ '<' :: uri.text := by
      have hdisplay := h.1
      simp only [List.mem_append, List.mem_cons, not_or] at hdisplay ⊢
      exact ⟨hdisplay.2.2, by decide, hclose⟩
    have hassoc : front ++ '<' :: rest ++ '<' :: (uri.text ++ '>' :: headerParams) =
        front ++ '<' :: (rest ++ '<' :: uri.text ++ '>' :: headerParams) := by simp
    have hbehind := uriHostPort_behind (h.2 hopen) (rest ++ ['<'])
    rw [hassoc, enclosed_append hfront, takeWhile_ne hrest]
    rw [List.append_assoc] at hbehind
    exact hbehind
  · rw [enclosed_append hopen, takeWhile_ne hclose, trim_uri_text, uriHostPort_text]

theorem targetFound_ok {contact : Contact} {defaultPort : Nat}
    (h : contact.TargetFound defaultPort) : ∃ r, extractUriFromNameAddr contact.text = .ok r := by
  obtain ⟨hfirst, _⟩ := h fun _ _ => none
  cases hextract : extractUriFromNameAddr contact.text with
  | ok r => exact ⟨r, rfl⟩
  | error e =>
    rw [parseSocketAddrFromSipUri, hextract] at hfirst
    cases hfirst

/-- The URI behind a plain display name, or without any, leads to its target unless it names a port
after a DNS name. -/
theorem targetFound_of_plainDisplay {contact : Contact} (hplain : contact.HasPlainDisplay)
    {defaultPort : Nat} (h : defaultPort < 65536) :
    contact.TargetFound defaultPort ↔ ¬ contact.uri.NamesPort := by
  cases contact with
  | bare uri =>
    have hopen : '<' ∉ uri.text := fun hc => (uri_text_clean uri '<' hc).2.1 rfl
    have hextract : extractUriFromNameAddr (Contact.bare uri).text = .ok (some uri.text) := by
      change extractUriFromNameAddr uri.text = _
      rw [extractUriFromNameAddr_bare hopen, trim_uri_text]
    rw [targetFound_iff hextract, uriHostPort_text]
    exact hostText_leads_iff uri h
  | angled display uri headerParams =>
    have hplain : PlainDisplay display uri := hplain
    have hclose : '>' ∉ display.takeWhile (· ≠ '<') :=
      fun hmem => hplain.1 ((List.takeWhile_prefix _).subset hmem)
    rw [targetFound_iff (extract_angled hclose), uriHostPort_plain hplain]
    exact hostText_leads_iff uri h

/-- A display name with a `>` before its first `<` makes both parsers panic. -/
theorem reversed_display_lost {display : Str} (uri : ContactUri) (headerParams : Str)
    (h : '>' ∈ display.takeWhile (· ≠ '<')) (defaultPort : Nat) :
    ¬ (Contact.angled display uri headerParams).TargetFound defaultPort := fun hfound =>
  (extractUriFromNameAddr_ok_iff _).mp (targetFound_ok hfound) (anglesReversed_angled h)

/-- Both parsers return the resolution of the host and port for every contact whose URI names no
port after a DNS name and whose display name is plain; of those with a plain display name for no
other, and for none whose display name has a `>` before its first `<`. -/
theorem contact_target_found (contact : Contact) {defaultPort : Nat} (h : defaultPort < 65536) :
    (contact.Unambiguous → contact.TargetFound defaultPort) ∧
      (contact.HasPlainDisplay → contact.TargetFound defaultPort → contact.Unambiguous) ∧
      ∀ display uri headerParams, contact = .angled display uri headerParams →
        '>' ∈ display.takeWhile (· ≠ '<') → ¬ contact.TargetFound defaultPort := by
  refine ⟨fun hclear => (targetFound_of_plainDisplay hclear.1 h).mpr hclear.2,
    fun hplain hfound => ⟨hplain, (targetFound_of_plainDisplay hplain h).mp hfound⟩, ?_⟩
  rintro display uri headerParams rfl hreversed
  exact reversed_display_lost uri headerParams hreversed defaultPort

/-- `sip:gw@[2001:db8::1];transport=udp`. -/
def literalUri : ContactUri where
  user := some "gw".toList
  host := .ipv6 "2001:db8::1".toList [8193, 3512, 0, 0, 0, 0, 0, 1] (by decide +kernel)
  port := none
  params := some "transport=udp".toList
  user_unmarked := by
    rintro text htext
    obtain rfl := Option.some.inj htext
    decide
  params_unmarked := by
    rintro text htext
    obtain rfl := Option.some.inj htext
    decide

theorem literal_contact_found :
    (Contact.angled "\"SBC\" ".toList literalUri ";expires=60".toList).TargetFound 5060 := by
  have hplain : PlainDisplay "\"SBC\" ".toList literalUri := by decide
  exact (contact_target_found _ (by decide)).1 ⟨hplain, id⟩

/-- `sip:gw@sip.example.com:5070`. -/
def namedUri : ContactUri where
  user := some "gw".toList
  host := .name "sip.example.com".toList (by decide) (by decide) (by decide +kernel)
  port := some ⟨0, 5070, by decide⟩
  params := none
  user_unmarked := by
    rintro text htext
    obtain rfl := Option.some.inj htext
    decide
  params_unmarked := fun _ htext => by cases htext

def oneName : Resolver := fun name port =>
  if name = "sip.example.com".toList then some [.new (.v4 192 0 2 9) port] else none

/-- No target is found where the resolution is 192.0.2.9:5070. -/
theorem named_contact_lost :
    (Contact.bare namedUri).text = "sip:gw@sip.example.com:5070".toList ∧
      namedUri.target oneName 5060 = some (.new (.v4 192 0 2 9) 5070) ∧
      parseSocketAddrFromSipUri oneName (Contact.bare namedUri).text 5060 = .ok none ∧
      ¬ (Contact.bare namedUri).TargetFound 5060 := by
  have htarget : namedUri.target oneName 5060 = some (.new (.v4 192 0 2 9) 5070) := by
    decide +kernel
  have hlost : parseSocketAddrFromSipUri oneName (Contact.bare namedUri).text 5060 = .ok none := by
    rfl
  refine ⟨by decide +kernel, htarget, hlost, fun hfound => ?_⟩
  have hboth := hlost.symm.trans (hfound oneName).1
  have hnone : none = namedUri.target oneName 5060 := Except.ok.inj hboth
  rw [htarget] at hnone
  cases hnone

end DemoService.Sip
