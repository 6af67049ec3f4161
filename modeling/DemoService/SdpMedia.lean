import DemoService.RustBreaks
import DemoService.SipMessage

/-! The media address of an SDP body: what the line scan makes of a body of several sections. -/

namespace DemoService.Sip

open RustText NetAddr

/-! ### Session descriptions -/

/-- `c=<nettype> <addrtype> <connection-address>`. -/
structure SdpConnection where
  netType : Str
  addrType : Str
  address : Str
  words : IsWord netType ∧ IsWord addrType ∧ IsWord address

/-- A line of any other type than `c` and `m`. -/
structure SdpOther where
  type : Char
  value : Str
  type_ne : type ≠ 'c' ∧ type ≠ 'm'
  type_visible : ¬ isWhitespace type = true
  oneLine : '\n' ∉ value

inductive SdpLine
  | connection (c : SdpConnection)
  | other (line : SdpOther)

/-- `m=<media> <port>[/<number of ports>] <proto> <fmt> ...` and the lines up to the next one. -/
structure SdpSection where
  media : Str
  port : Nat
  leadingZeros : Nat
  numberOfPorts : Option Nat
  formats : List Str
  lines : List SdpLine
  port_lt : port < 65536
  words : IsWord media ∧ ∀ format ∈ formats, IsWord format

structure SdpBody where
  session : List SdpLine
  sections : List SdpSection

def SdpConnection.text (c : SdpConnection) : Str :=
  join [' '] ["c=".toList ++ c.netType, c.addrType, c.address]

def SdpLine.text : SdpLine → Str
  | .connection c => c.text
  | .other line => line.type :: '=' :: line.value

def SdpSection.portText (s : SdpSection) : Str :=
  decimal s.leadingZeros s.port ++ s.numberOfPorts.elim [] fun count => '/' :: ofNat count

def SdpSection.mediaText (s : SdpSection) : Str :=
  join [' '] (("m=".toList ++ s.media) :: s.portText :: s.formats)

def SdpSection.texts (s : SdpSection) : List Str := s.mediaText :: s.lines.map SdpLine.text

def SdpBody.texts (body : SdpBody) : List Str :=
  body.session.map SdpLine.text ++ body.sections.flatMap SdpSection.texts

def SdpBody.text (body : SdpBody) : Str := (body.texts.map (· ++ crlf)).flatten

def SdpLine.connection? : SdpLine → Option SdpConnection
  | .connection c => some c
  | .other _ => none

def connections (lines : List SdpLine) : List SdpConnection := lines.filterMap SdpLine.connection?

/-- The connections that the scan takes notice of, whatever section they belong to. -/
def seen (lines : List SdpLine) : List SdpConnection :=
  (connections lines).filter fun c => startsWith "IN".toList c.netType

def SdpBody.seen (body : SdpBody) : List SdpConnection :=
  Sip.seen body.session ++ body.sections.flatMap fun s => Sip.seen s.lines

/-- A section that the scan takes for audio. -/
def SdpSection.audioLike (s : SdpSection) : Bool := startsWith "audio".toList s.media

def SdpSection.portRead (s : SdpSection) : Option Nat := parseU16 s.portText

/-! ### Texts of lines -/

theorem startsWith_append {p w : Str} {d : Char} (h : d ∉ p) (rest : Str) :
    startsWith p (w ++ d :: rest) = startsWith p w := by
  rw [startsWith, startsWith]
  induction p generalizing w with
  | nil => simp
  | cons c p ih =>
    rw [List.mem_cons, not_or] at h
    cases w with
    | nil =>
      have hc : (c == d) = false := by simpa using fun heq : c = d => h.1 heq.symm
      simp [List.isPrefixOf, hc]
    | cons e w =>
      rw [List.cons_append, List.isPrefixOf, List.isPrefixOf, ih h.2]

theorem startsWith_join {p w : Str} (h : ' ' ∉ p) (ws : List Str) :
    startsWith p (join [' '] (w :: ws)) = startsWith p w := by
  cases ws with
  | nil => rfl
  | cons next ws =>
    have hjoin : join [' '] (w :: next :: ws) = w ++ ' ' :: join [' '] (next :: ws) := by
      simp [join]
    rw [hjoin, startsWith_append h]

theorem startsWith_cons (p : Str) (c : Char) (w : Str) :
    startsWith (c :: p) (c :: w) = startsWith p w := by
  simp [startsWith, List.isPrefixOf]

/-- A text that starts with a visible character starts with the same words after trimming. -/
theorem startsWith_trim {c : Char} (hc : ¬ isWhitespace c = true) {p : Str}
    (hp : ∀ d ∈ p, ¬ isWhitespace d = true) (rest : Str) :
    startsWith p (trim (c :: rest)) = startsWith p (c :: rest) := by
  have htrim : trim (c :: rest) = c :: rest.rdropWhile isWhitespace := trim_around hc [] rest
  rw [htrim, Bool.eq_iff_iff, startsWith, startsWith, List.isPrefixOf_iff_prefix,
    List.isPrefixOf_iff_prefix]
  constructor
  · intro h
    have hsub : c :: rest.rdropWhile isWhitespace <+: c :: rest :=
      List.prefix_cons_inj c |>.mpr (List.rdropWhile_prefix _ _)
    exact h.trans hsub
  · intro h
    cases p with
    | nil => exact List.nil_prefix
    | cons d p =>
      obtain ⟨rfl, tail, rfl⟩ : d = c ∧ ∃ tail, p ++ tail = rest := by
        obtain ⟨tail, htail⟩ := h
        obtain ⟨hd, hrest⟩ := List.cons.inj htail
        exact ⟨hd, tail, hrest⟩
      refine (List.prefix_cons_inj d).mpr ?_
      rcases List.eq_nil_or_concat p with rfl | ⟨front, last, hconcat⟩
      · exact List.nil_prefix
      · obtain rfl : p = front ++ [last] := hconcat.trans (List.concat_eq_append ..)
        have hlast : ¬ isWhitespace last = true :=
          hp last (List.mem_cons_of_mem _ (List.mem_append_right _ List.mem_cons_self))
        have hkeep := rdropWhile_append_cons hlast front tail
        have hassoc : front ++ [last] ++ tail = front ++ last :: tail := by simp
        rw [hassoc, hkeep]
        exact ⟨tail.rdropWhile isWhitespace, by simp⟩

theorem SdpConnection.text_words (c : SdpConnection) :
    ∀ word ∈ ["c=".toList ++ c.netType, c.addrType, c.address], IsWord word := by
  have hmark : ∀ d ∈ "c=".toList, ¬ isWhitespace d = true := by decide
  simp only [List.forall_mem_cons]
  refine ⟨⟨by simp, ?_⟩, c.words.2.1, c.words.2.2, by simp⟩
  intro d hd
  rcases List.mem_append.mp hd with hd | hd
  · exact hmark d hd
  · exact c.words.1.2 d hd

theorem portText_word (s : SdpSection) : IsWord s.portText := by
  have hdigits := isWord_decimal s.leadingZeros s.port
  refine ⟨List.append_ne_nil_of_left_ne_nil hdigits.1 _, ?_⟩
  intro c hc
  rcases List.mem_append.mp hc with hport | hcount
  · exact hdigits.2 c hport
  · cases hnumber : s.numberOfPorts with
    | none =>
      rw [hnumber] at hcount
      cases hcount
    | some count =>
      rw [hnumber] at hcount
      rcases List.mem_cons.mp hcount with rfl | hcount
      · decide
      · exact (isWord_ofNat count).2 c hcount

theorem SdpSection.mediaText_words (s : SdpSection) :
    ∀ word ∈ ("m=".toList ++ s.media) :: s.portText :: s.formats, IsWord word := by
  have hmark : ∀ d ∈ "m=".toList, ¬ isWhitespace d = true := by decide
  simp only [List.forall_mem_cons]
  refine ⟨⟨by simp, ?_⟩, portText_word s, s.words.2⟩
  intro d hd
  rcases List.mem_append.mp hd with hd | hd
  · exact hmark d hd
  · exact s.words.1.2 d hd

/-! ### The scan -/

/-- What the address becomes over connection lines; `none` after one that is no IP literal. -/
def hostAfter (host : IpAddr) : List SdpConnection → Option IpAddr
  | [] => some host
  | c :: cs => (parseIpAddr c.address).bind fun ip => hostAfter ip cs

theorem hostAfter_append (host : IpAddr) (a b : List SdpConnection) :
    hostAfter host (a ++ b) = (hostAfter host a).bind fun host => hostAfter host b := by
  induction a generalizing host with
  | nil => rfl
  | cons c a ih =>
    rw [List.cons_append, hostAfter, hostAfter, Option.bind_assoc]
    exact congrArg _ (funext fun ip => ih ip)

theorem connection_not_media (c : SdpConnection) :
    startsWith "m=audio".toList (trim c.text) = false := by
  have htrim : startsWith "m=audio".toList (trim c.text) = startsWith "m=audio".toList c.text :=
    startsWith_trim (by decide) (by decide) _
  rw [htrim]
  rfl

theorem other_startsWith (line : SdpOther) {c : Char} {p : Str} (hne : line.type ≠ c)
    (hp : ∀ d ∈ c :: p, ¬ isWhitespace d = true) :
    startsWith (c :: p) (trim (SdpLine.other line).text) = false := by
  have htrim : startsWith (c :: p) (trim (SdpLine.other line).text) =
      startsWith (c :: p) (SdpLine.other line).text := startsWith_trim line.type_visible hp _
  have hhead : (c == line.type) = false := by simpa using fun heq : c = line.type => hne heq.symm
  rw [htrim]
  simp [startsWith, SdpLine.text, List.isPrefixOf, hhead]

theorem other_not_media (line : SdpOther) :
    startsWith "m=audio".toList (trim (SdpLine.other line).text) = false :=
  other_startsWith line line.type_ne.2 (by decide)

theorem hostAfter_eq_some_iff {host ip : IpAddr} {cs : List SdpConnection} :
    hostAfter host cs = some ip ↔ (∀ c ∈ cs, (parseIpAddr c.address).isSome) ∧
      cs.getLast?.elim (some host) (fun c => parseIpAddr c.address) = some ip := by
  induction cs generalizing host with
  | nil => simp [hostAfter]
  | cons c cs ih =>
    rw [hostAfter, List.forall_mem_cons, List.getLast?_cons]
    cases hc : parseIpAddr c.address with
    | none => simp
    | some first =>
      rw [Option.bind_some, ih]
      cases cs.getLast? with
      | none => simp [hc]
      | some last => simp

theorem scanMedia_connection (c : SdpConnection) (host : IpAddr) (port : Option Nat)
    (rest : List Str) : scanMedia host port (c.text :: rest) =
      (hostAfter host (seen [.connection c])).bind fun host => scanMedia host port rest := by
  have hstart : startsWith "c=IN".toList (trim c.text) = startsWith "IN".toList c.netType := by
    have htrim : startsWith "c=IN".toList (trim c.text) = startsWith "c=IN".toList c.text :=
      startsWith_trim (by decide) (by decide) _
    have hword : startsWith "c=IN".toList c.text =
        startsWith "c=IN".toList ("c=".toList ++ c.netType) := startsWith_join (by decide) _
    rw [htrim, hword]
    exact (startsWith_cons _ _ _).trans (startsWith_cons _ _ _)
  have hwords : splitWhitespace (trim c.text) =
      ["c=".toList ++ c.netType, c.addrType, c.address] := by
    rw [splitWhitespace_trim]
    exact splitWhitespace_join c.text_words
  rw [scanMedia]
  simp only [hstart, connection_not_media, hwords]
  cases hvisible : startsWith "IN".toList c.netType with
  | false =>
    have hseen : seen [.connection c] = [] :=
      List.filter_cons_of_neg fun h => absurd (hvisible.symm.trans h) (by decide)
    rw [hseen]
    rfl
  | true =>
    have hseen : seen [.connection c] = [c] := List.filter_cons_of_pos hvisible
    have hvalue : ["c=".toList ++ c.netType, c.addrType, c.address][2]? = some c.address := rfl
    rw [hseen, hostAfter, if_pos rfl, hvalue]
    cases hhost : parseIpAddr c.address with
    | none => simp only [hhost, Option.bind_none]
    | some ip => simp only [hhost, Option.bind_some, hostAfter]

theorem scanMedia_other (line : SdpOther) (host : IpAddr) (port : Option Nat) (rest : List Str) :
    scanMedia host port ((SdpLine.other line).text :: rest) = scanMedia host port rest := by
  have hconnection : startsWith "c=IN".toList (trim (SdpLine.other line).text) = false :=
    other_startsWith line line.type_ne.1 (by decide)
  rw [scanMedia]
  simp only [hconnection, other_not_media]
  rfl

theorem scanMedia_lines (lines : List SdpLine) (host : IpAddr) (port : Option Nat)
    (rest : List Str) : scanMedia host port (lines.map SdpLine.text ++ rest) =
      (hostAfter host (seen lines)).bind fun host => scanMedia host port rest := by
  induction lines generalizing host with
  | nil => rfl
  | cons line lines ih =>
    rw [List.map_cons, List.cons_append]
    cases line with
    | connection c =>
      have hseen : seen (.connection c :: lines) = seen [.connection c] ++ seen lines := by
        simp [seen, connections, SdpLine.connection?, List.filter_cons]
        split <;> rfl
      have htext : (SdpLine.connection c).text = c.text := rfl
      rw [htext, scanMedia_connection, hseen, hostAfter_append, Option.bind_assoc]
      exact congrArg _ (funext fun host => ih host)
    | other line =>
      rw [scanMedia_other]
      exact ih host

theorem startsWith_mediaText (s : SdpSection) :
    startsWith "m=audio".toList (trim s.mediaText) = s.audioLike := by
  have htrim : startsWith "m=audio".toList (trim s.mediaText) =
      startsWith "m=audio".toList s.mediaText := startsWith_trim (by decide) (by decide) _
  have hword : startsWith "m=audio".toList s.mediaText =
      startsWith "m=audio".toList ("m=".toList ++ s.media) := startsWith_join (by decide) _
  rw [htrim, hword]
  exact (startsWith_cons _ _ _).trans (startsWith_cons _ _ _)

/-- The port of a section is read back unless a number of ports follows it. -/
theorem portRead_eq_some_iff {s : SdpSection} {port : Nat} :
    s.portRead = some port ↔ s.numberOfPorts = none ∧ s.port = port := by
  rw [SdpSection.portRead, SdpSection.portText, parseU16_decimal_append s.port_lt]
  cases s.numberOfPorts with
  | none => simp [digitsBelow]
  | some count =>
    have hslash : digitsBelow 65536 10 s.port ('/' :: ofNat count) = none := rfl
    simp [hslash]

theorem splitWhitespace_mediaText (s : SdpSection) :
    splitWhitespace (trim s.mediaText) = ("m=".toList ++ s.media) :: s.portText :: s.formats := by
  rw [splitWhitespace_trim]
  exact splitWhitespace_join s.mediaText_words

theorem scanMedia_section (s : SdpSection) (host : IpAddr) (port : Option Nat)
    (rest : List Str) : scanMedia host port (s.texts ++ rest) =
      (hostAfter host (seen s.lines)).bind fun host =>
        scanMedia host (if s.audioLike then s.portRead else port) rest := by
  have hconnection : startsWith "c=IN".toList (trim s.mediaText) = false := by
    have htrim : startsWith "c=IN".toList (trim s.mediaText) =
        startsWith "c=IN".toList s.mediaText := startsWith_trim (by decide) (by decide) _
    rw [htrim]
    rfl
  rw [← scanMedia_lines]
  change scanMedia host port (s.mediaText :: (s.lines.map SdpLine.text ++ rest)) = _
  rw [scanMedia]
  simp only [hconnection, startsWith_mediaText, splitWhitespace_mediaText]
  cases s.audioLike <;> rfl

theorem scanMedia_sections (sections : List SdpSection) (host : IpAddr) (port : Option Nat) :
    scanMedia host port (sections.flatMap SdpSection.texts) =
      (hostAfter host (sections.flatMap fun s => seen s.lines)).map fun host =>
        (host, (sections.filter SdpSection.audioLike).getLast?.elim port SdpSection.portRead) := by
  induction sections generalizing host port with
  | nil => rfl
  | cons s sections ih =>
    rw [List.flatMap_cons, List.flatMap_cons, scanMedia_section, hostAfter_append,
      Option.map_bind]
    refine congrArg _ (funext fun host => ?_)
    rw [ih]
    refine congrArg (Option.map · _) (funext fun host => Prod.ext rfl ?_)
    cases haudio : s.audioLike with
    | false => rw [List.filter_cons_of_neg (by simp [haudio])]; rfl
    | true =>
      rw [List.filter_cons_of_pos haudio, List.getLast?_cons]
      cases (sections.filter SdpSection.audioLike).getLast? <;> rfl

theorem audioPort_skip {line : Str} (h : startsWith "m=audio".toList (trim line) = false)
    (rest : List Str) : audioPort (line :: rest) = audioPort rest := by
  rw [audioPort]
  simp only [h]
  rfl

theorem audioPort_lines (lines : List SdpLine) (rest : List Str) :
    audioPort (lines.map SdpLine.text ++ rest) = audioPort rest := by
  induction lines with
  | nil => rfl
  | cons line lines ih =>
    rw [List.map_cons, List.cons_append, audioPort_skip ?_, ih]
    cases line with
    | connection c => exact connection_not_media c
    | other line => exact other_not_media line

theorem audioPort_sections (sections : List SdpSection) :
    audioPort (sections.flatMap SdpSection.texts) =
      (sections.filter SdpSection.audioLike).head?.bind SdpSection.portRead := by
  induction sections with
  | nil => rfl
  | cons s sections ih =>
    rw [List.flatMap_cons]
    change audioPort (s.mediaText :: (s.lines.map SdpLine.text ++ _)) = _
    cases haudio : s.audioLike with
    | false =>
      rw [audioPort_skip ((startsWith_mediaText s).trans haudio), audioPort_lines, ih,
        List.filter_cons_of_neg (by simp [haudio])]
    | true =>
      rw [List.filter_cons_of_pos haudio, audioPort]
      simp only [startsWith_mediaText, haudio, splitWhitespace_mediaText]
      rfl

/-! ### The body -/

theorem newline_notMem_line (line : SdpLine) : '\n' ∉ line.text := by
  cases line with
  | connection c => exact newline_notMem_join c.text_words
  | other line =>
    intro hnl
    rcases List.mem_cons.mp hnl with heq | hnl
    · exact line.type_visible (by rw [← heq]; decide)
    · rcases List.mem_cons.mp hnl with heq | hnl
      · exact absurd heq (by decide)
      · exact line.oneLine hnl

theorem lines_text (body : SdpBody) : lines body.text = body.texts := by
  refine lines_endings ?_
  have hlines : ∀ ls : List SdpLine, ∀ line ∈ ls.map SdpLine.text, '\n' ∉ line := by
    intro ls line hline
    obtain ⟨line, _, rfl⟩ := List.mem_map.mp hline
    exact newline_notMem_line line
  intro line hline
  rcases List.mem_append.mp hline with hline | hline
  · exact hlines body.session line hline
  · obtain ⟨s, _, hline⟩ := List.mem_flatMap.mp hline
    rcases List.mem_cons.mp hline with rfl | hline
    · exact newline_notMem_join s.mediaText_words
    · exact hlines s.lines line hline

/-! ### One audio section -/

/-- A description with one `m=audio` section. -/
structure AudioBody where
  session : List SdpLine
  before : List SdpSection
  audio : SdpSection
  after : List SdpSection
  is_audio : audio.media = "audio".toList
  one_audio : ∀ s ∈ before ++ after, s.media ≠ "audio".toList

theorem socketAddr_new_inj {a b : IpAddr} {m n : Nat} (h : SocketAddr.new a m = .new b n) :
    a = b ∧ m = n := by
  obtain ⟨hip, hport, _⟩ := SocketAddr.mk.inj h
  exact ⟨hip, hport⟩

namespace AudioBody

def body (b : AudioBody) : SdpBody where
  session := b.session
  sections := b.before ++ b.audio :: b.after

/-- The address is that of a connection line of the audio section, without one that of
a connection line of the session, without one the fallback. -/
def Wanted (b : AudioBody) (fallback ip : IpAddr) : Prop :=
  match connections b.audio.lines, connections b.session with
  | [], [] => ip = fallback
  | [], shared => ∃ c ∈ shared, parseIpAddr c.address = some ip
  | own, _ => ∃ c ∈ own, parseIpAddr c.address = some ip

/-- What the two readers should return. -/
def MediaRead (b : AudioBody) (message : Str) (fallback : IpAddr) : Prop :=
  (∃ ip, b.Wanted fallback ip ∧
      extractMediaAddrFromSdp message fallback = some (.new ip b.audio.port)) ∧
    extractAudioPortFromSdp message = some b.audio.port

/-- Every `c=IN` line of the body has an IP literal, and the last of them, of whatever section,
has the address that is wanted. -/
def LastConnectionWanted (b : AudioBody) (fallback : IpAddr) : Prop :=
  (∀ c ∈ b.body.seen, (parseIpAddr c.address).isSome) ∧
    ∃ ip, b.body.seen.getLast?.elim (some fallback) (fun c => parseIpAddr c.address) = some ip ∧
      b.Wanted fallback ip

def taken (b : AudioBody) : List SdpSection := b.body.sections.filter SdpSection.audioLike

/-- The first and the last section that are taken for audio have the port of the audio section,
and no number of ports. -/
def EndPortsWanted (b : AudioBody) : Prop :=
  ∀ s, b.taken.head? = some s ∨ b.taken.getLast? = some s →
    s.numberOfPorts = none ∧ s.port = b.audio.port

theorem audio_mem_taken (b : AudioBody) : b.audio ∈ b.taken := by
  have hlike : b.audio.audioLike = true := by
    rw [SdpSection.audioLike, b.is_audio]
    rfl
  exact List.mem_filter.mpr ⟨List.mem_append_right _ List.mem_cons_self, hlike⟩

theorem audioPort_body (b : AudioBody) {message : Str} (h : sdpBody message = some b.body.text) :
    extractAudioPortFromSdp message = b.taken.head?.bind SdpSection.portRead := by
  rw [extractAudioPortFromSdp, h, Option.bind_some, lines_text, SdpBody.texts, audioPort_lines,
    audioPort_sections]
  rfl

theorem mediaAddr_body (b : AudioBody) {message : Str} (h : sdpBody message = some b.body.text)
    (fallback : IpAddr) : extractMediaAddrFromSdp message fallback =
      (hostAfter fallback b.body.seen).bind fun host =>
        (b.taken.getLast?.bind SdpSection.portRead).map fun port => .new host port := by
  have hport : b.taken.getLast?.elim none SdpSection.portRead =
      b.taken.getLast?.bind SdpSection.portRead := by cases b.taken.getLast? <;> rfl
  have hseen : hostAfter fallback b.body.seen =
      (hostAfter fallback (seen b.session)).bind fun host =>
        hostAfter host (b.body.sections.flatMap fun s => seen s.lines) := hostAfter_append _ _ _
  rw [extractMediaAddrFromSdp, h, hseen, Option.bind_assoc, ← hport]
  change (scanMedia fallback none (lines b.body.text)).bind _ = _
  rw [lines_text, SdpBody.texts, scanMedia_lines, Option.bind_assoc]
  refine congrArg _ (funext fun host => ?_)
  rw [scanMedia_sections, Option.bind_map]
  exact congrArg _ (funext fun host => Option.map_eq_bind.symm)

theorem mediaAddr_eq_some_iff (b : AudioBody) {message : Str}
    (h : sdpBody message = some b.body.text) {fallback ip : IpAddr} {port : Nat} :
    extractMediaAddrFromSdp message fallback = some (.new ip port) ↔
      hostAfter fallback b.body.seen = some ip ∧
        b.taken.getLast?.bind SdpSection.portRead = some port := by
  rw [mediaAddr_body b h]
  constructor
  · intro hread
    obtain ⟨host, hhost, hread⟩ := Option.bind_eq_some_iff.mp hread
    obtain ⟨found, hfound, hnew⟩ := Option.map_eq_some_iff.mp hread
    obtain ⟨rfl, rfl⟩ := socketAddr_new_inj hnew
    exact ⟨hhost, hfound⟩
  · rintro ⟨hhost, hfound⟩
    rw [hhost, hfound]
    rfl

theorem endPortsWanted_iff (b : AudioBody) :
    b.EndPortsWanted ↔ b.taken.head?.bind SdpSection.portRead = some b.audio.port ∧
      b.taken.getLast?.bind SdpSection.portRead = some b.audio.port := by
  have hne : b.taken ≠ [] := List.ne_nil_of_mem b.audio_mem_taken
  rw [EndPortsWanted, List.head?_eq_some_head hne, List.getLast?_eq_some_getLast hne,
    Option.bind_some, Option.bind_some, portRead_eq_some_iff, portRead_eq_some_iff]
  simp only [Option.some.injEq]
  constructor
  · intro h
    exact ⟨h _ (.inl rfl), h _ (.inr rfl)⟩
  · rintro ⟨hfirst, hlast⟩ s (rfl | rfl)
    · exact hfirst
    · exact hlast

end AudioBody

/-- The two readers agree on the audio section's port and its own address exactly when the last
connection line of the body has that address and the sections taken for audio have that port. -/
theorem media_read_iff (b : AudioBody) {message : Str} (h : sdpBody message = some b.body.text)
    (fallback : IpAddr) :
    b.MediaRead message fallback ↔ b.LastConnectionWanted fallback ∧ b.EndPortsWanted := by
  rw [AudioBody.MediaRead, b.endPortsWanted_iff, b.audioPort_body h]
  simp only [b.mediaAddr_eq_some_iff h, hostAfter_eq_some_iff]
  constructor
  · rintro ⟨⟨ip, hwanted, ⟨hliterals, hlast⟩, hend⟩, hfirst⟩
    exact ⟨⟨hliterals, ip, hlast, hwanted⟩, hfirst, hend⟩
  · rintro ⟨⟨hliterals, ip, hlast, hwanted⟩, hfirst, hend⟩
    exact ⟨⟨ip, hwanted, ⟨hliterals, hlast⟩, hend⟩, hfirst⟩

def connectionAt (address : Str) (h : IsWord address) : SdpConnection where
  netType := "IN".toList
  addrType := "IP4".toList
  address
  words := ⟨isWord_of_all (by decide), isWord_of_all (by decide), h⟩

def sectionAt (media : Str) (hmedia : IsWord media) (port : Nat) (hport : port < 65536)
    (lines : List SdpLine) : SdpSection where
  media
  port
  leadingZeros := 0
  numberOfPorts := none
  formats := ["RTP/AVP".toList, "0".toList]
  lines
  port_lt := hport
  words := ⟨hmedia, by
    simp only [List.forall_mem_cons]
    exact ⟨isWord_of_all (by decide), isWord_of_all (by decide), by simp⟩⟩

def otherLine (type : Char) (value : String) (hne : type ≠ 'c' ∧ type ≠ 'm')
    (hvisible : ¬ isWhitespace type = true) (hline : '\n' ∉ value.toList) : SdpLine :=
  .other ⟨type, value.toList, hne, hvisible, hline⟩

def sessionLines : List SdpLine :=
  [otherLine 'v' "0" (by decide) (by decide) (by decide),
    otherLine 'o' "- 1 1 IN IP4 192.0.2.1" (by decide) (by decide) (by decide),
    otherLine 's' "-" (by decide) (by decide) (by decide),
    otherLine 't' "0 0" (by decide) (by decide) (by decide)]

/-- Audio at 192.0.2.1 and video at 192.0.2.2. -/
def videoCall : AudioBody where
  session := sessionLines
  before := []
  audio := sectionAt "audio".toList (isWord_of_all (by decide)) 49170 (by decide)
    [.connection (connectionAt "192.0.2.1".toList (isWord_of_all (by decide)))]
  after := [sectionAt "video".toList (isWord_of_all (by decide)) 51372 (by decide)
    [.connection (connectionAt "192.0.2.2".toList (isWord_of_all (by decide)))]]
  is_audio := rfl
  one_audio := by
    simp only [List.nil_append, List.forall_mem_cons]
    exact ⟨by decide, by simp⟩

/-- Audio alone, with a connection line for the session. -/
def audioCall : AudioBody where
  session := sessionLines ++
    [.connection (connectionAt "192.0.2.1".toList (isWord_of_all (by decide)))]
  before := []
  audio := sectionAt "audio".toList (isWord_of_all (by decide)) 49170 (by decide) []
  after := []
  is_audio := rfl
  one_audio := by simp

def AudioBody.answer (b : AudioBody) : Str :=
  "SIP/2.0 200 OK\r\nContent-Type: application/sdp\r\n\r\n".toList ++ b.body.text

theorem audio_call_media_read : audioCall.MediaRead audioCall.answer (.v4 198 51 100 7) :=
  (media_read_iff audioCall (by decide +kernel) _).mpr
    ⟨⟨by decide +kernel, .v4 192 0 2 1, by decide +kernel, _, List.mem_cons_self, by decide +kernel⟩,
      by
        rintro s (hs | hs)
        · obtain rfl := Option.some.inj hs
          exact ⟨rfl, rfl⟩
        · obtain rfl := Option.some.inj hs
          exact ⟨rfl, rfl⟩⟩

/-- Audio would be sent to the address of the video section. -/
theorem video_call_media_misread : sdpBody videoCall.answer = some videoCall.body.text ∧
    extractMediaAddrFromSdp videoCall.answer (.v4 198 51 100 7) =
      some (.new (.v4 192 0 2 2) 49170) ∧
    ¬ videoCall.MediaRead videoCall.answer (.v4 198 51 100 7) := by
  have hread : extractMediaAddrFromSdp videoCall.answer (.v4 198 51 100 7) =
      some (.new (.v4 192 0 2 2) 49170) := by decide +kernel
  refine ⟨by decide +kernel, hread, ?_⟩
  rintro ⟨⟨ip, ⟨c, hc, hwanted⟩, hfound⟩, _⟩
  obtain rfl := List.mem_singleton.mp hc
  obtain rfl : ip = .v4 192 0 2 1 := by
    refine Option.some.inj (hwanted.symm.trans ?_)
    decide +kernel
  obtain ⟨hip, _⟩ := socketAddr_new_inj (Option.some.inj (hfound.symm.trans hread))
  exact absurd hip (by decide)

end DemoService.Sip
