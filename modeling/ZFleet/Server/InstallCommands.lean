import ZFleet.Foundations.ShellWords

/-!
The install commands that are shown for a platform. Both quote their values for a POSIX
shell; PowerShell ends a word at its closing quote, so there a value with a quote in it is
not one word.
-/
namespace InstallCommands
open ShellWords

structure InstallCommandRequest where
  serverUrl : List Char
  controlUrl : List Char
  token : List Char
  channel : List Char
  root : List Char
  deriving DecidableEq, Repr

def quoteChar (ch : Char) : List Char := if ch = '\'' then "'\"'\"'".toList else [ch]

def shellQuote (value : List Char) : List Char := ['\''] ++ value.flatMap quoteChar ++ ['\'']

/-- The platforms asked for are those of the table. -/
def installScriptUrl (platform : String) (serverUrl : List Char) : List Char :=
  serverUrl ++ "/api/v1/install/script?platform=".toList ++ platform.toList

def linuxInstallCommand (request : InstallCommandRequest) : List Char :=
  "curl -fsSL ".toList ++ shellQuote (installScriptUrl "linux" request.serverUrl) ++
    " | sudo bash -s -- \\\n  --server-url ".toList ++ shellQuote request.serverUrl ++
    " \\\n  --control-url ".toList ++ shellQuote request.controlUrl ++
    " \\\n  --token ".toList ++ shellQuote request.token ++
    " \\\n  --channel ".toList ++ shellQuote request.channel ++
    " \\\n  --root ".toList ++ shellQuote request.root

def windowsInstallCommand (request : InstallCommandRequest) : List Char :=
  "powershell -ExecutionPolicy Bypass -File ".toList ++
    shellQuote (installScriptUrl "windows" request.serverUrl) ++
    " -ServerUrl ".toList ++ shellQuote request.serverUrl ++
    " -ControlUrl ".toList ++ shellQuote request.controlUrl ++
    " -Token ".toList ++ shellQuote request.token ++
    " -Channel ".toList ++ shellQuote request.channel ++
    " -Root ".toList ++ shellQuote request.root

structure InstallPlatformSpec where
  platform : String
  buildCommand : InstallCommandRequest → List Char

def kSpecs : List InstallPlatformSpec :=
  [⟨"linux", linuxInstallCommand⟩, ⟨"windows", windowsInstallCommand⟩]

def buildInstallCommand (platform : String) (request : InstallCommandRequest) :
    Except String (List Char) :=
  match kSpecs.find? fun spec => spec.platform = platform with
  | none => .error "unsupported install platform"
  | some spec => .ok (spec.buildCommand request)

/-! The intended words -/

def linuxWords (request : InstallCommandRequest) : List ShellToken :=
  [.word "curl".toList, .word "-fsSL".toList,
    .word (installScriptUrl "linux" request.serverUrl), .operator "|".toList,
    .word "sudo".toList, .word "bash".toList, .word "-s".toList, .word "--".toList,
    .word "--server-url".toList, .word request.serverUrl,
    .word "--control-url".toList, .word request.controlUrl,
    .word "--token".toList, .word request.token,
    .word "--channel".toList, .word request.channel,
    .word "--root".toList, .word request.root]

def windowsWords (request : InstallCommandRequest) : List (List Char) :=
  ["powershell".toList, "-ExecutionPolicy".toList, "Bypass".toList, "-File".toList,
    installScriptUrl "windows" request.serverUrl,
    "-ServerUrl".toList, request.serverUrl, "-ControlUrl".toList, request.controlUrl,
    "-Token".toList, request.token, "-Channel".toList, request.channel,
    "-Root".toList, request.root]

/-! Quoted values -/

/-- In a single-quoted string a POSIX shell reads a quoted value as it is. -/
theorem posix_reads_value (text value : List Char) :
    posix.Reads (.single text) (value.flatMap quoteChar ++ ['\'']) [] (.word (text ++ value)) := by
  induction value generalizing text with
  | nil =>
    rw [List.append_nil]
    rfl
  | cons ch value ih =>
    have later := ih (text ++ [ch])
    rw [List.append_assoc, List.singleton_append] at later
    rw [List.flatMap_cons, List.append_assoc]
    by_cases quote : ch = '\''
    · subst quote
      have escaped : posix.Reads (.single text) "'\"'\"'".toList [] (.single (text ++ ['\''])) := rfl
      exact escaped.append later
    · rw [quoteChar, if_neg quote]
      have stepped : posix.step (.single text) ch = some ([], .single (text ++ [ch])) := by
        simp [posix, posixStep, quote]
      exact .step stepped later

theorem posix_reads_quoted (value : List Char) :
    posix.Reads .between (shellQuote value) [] (.word value) := by
  have opened : posix.step .between '\'' = some ([], .single []) := rfl
  exact .step opened (posix_reads_value [] value)

/-- The words that PowerShell makes of a quoted value, but the last, and the last. -/
def broken (text : List Char) : List Char → List (List Char) × List Char
  | [] => ([], text)
  | ch :: value =>
    if ch = '\'' then (text :: ['\''] :: (broken [] value).1, (broken [] value).2)
    else broken (text ++ [ch]) value

def brokenWords (value : List Char) : List (List Char) := (broken [] value).1 ++ [(broken [] value).2]

theorem powerShell_reads_value (text value : List Char) :
    powerShell.Reads (.single text) (value.flatMap quoteChar ++ ['\'']) (broken text value).1
      (.singleQuote (broken text value).2) := by
  induction value generalizing text with
  | nil => rfl
  | cons ch value ih =>
    rw [List.flatMap_cons, List.append_assoc, broken]
    by_cases quote : ch = '\''
    · subst quote
      have escaped : powerShell.Reads (.single text) "'\"'\"'".toList [text, ['\'']]
          (.single []) := rfl
      exact escaped.append (ih [])
    · rw [quoteChar, if_neg quote, if_neg quote]
      have stepped : powerShell.step (.single text) ch = some ([], .single (text ++ [ch])) := by
        simp [powerShell, powerShellStep, quote]
      exact .step stepped (ih (text ++ [ch]))

theorem powerShell_reads_quoted (value : List Char) :
    powerShell.Reads .between (shellQuote value) (broken [] value).1
      (.singleQuote (broken [] value).2) := by
  have opened : powerShell.step .between '\'' = some ([], .single []) := rfl
  exact .step opened (powerShell_reads_value [] value)

theorem broken_length (text value : List Char) :
    (broken text value).1.length = 2 * value.count '\'' := by
  induction value generalizing text with
  | nil => rfl
  | cons ch value ih =>
    rw [broken]
    by_cases quote : ch = '\''
    · subst quote
      rw [if_pos rfl, List.count_cons_self]
      simp only [List.length_cons, ih]
      omega
    · rw [if_neg quote, ih, List.count_cons_of_ne quote]

theorem broken_plain {value : List Char} (plain : '\'' ∉ value) (text : List Char) :
    broken text value = ([], text ++ value) := by
  induction value generalizing text with
  | nil => simp [broken]
  | cons ch value ih =>
    rw [List.mem_cons, not_or] at plain
    rw [broken, if_neg (Ne.symm plain.1), ih plain.2]
    simp

theorem brokenWords_length (value : List Char) :
    (brokenWords value).length = 1 + 2 * value.count '\'' := by
  rw [brokenWords, List.length_append, broken_length, List.length_singleton]
  omega

theorem brokenWords_plain {value : List Char} (plain : '\'' ∉ value) :
    brokenWords value = [value] := by
  rw [brokenWords, broken_plain plain]
  rfl

/-! The commands -/

/-- The blank behind a quoted value ends its word. -/
theorem posix_reads_gap {gap : List Char} {tokens : List ShellToken} (word : List Char)
    (fixed : posix.Reads .between gap tokens .between) :
    posix.Reads (.word word) (' ' :: gap) (.word word :: tokens) .between := by
  have ended : posix.step (.word word) ' ' = some ([.word word], .between) := rfl
  exact .step ended fixed

theorem powerShell_reads_gap {gap : List Char} {words : List (List Char)} (word : List Char)
    (fixed : powerShell.Reads .between gap words .between) :
    powerShell.Reads (.singleQuote word) (' ' :: gap) (word :: words) .between := by
  have ended : powerShell.step (.singleQuote word) ' ' = some ([word], .between) := rfl
  exact .step ended fixed

theorem linux_split (request : InstallCommandRequest) :
    posix.split (linuxInstallCommand request) = some (linuxWords request) := by
  have url : posix.Reads .between _ _ _ :=
    (show posix.Reads .between "curl -fsSL ".toList
      [.word "curl".toList, .word "-fsSL".toList] .between from rfl).append
      (posix_reads_quoted (installScriptUrl "linux" request.serverUrl))
  have server := (url.append (posix_reads_gap _
    (show posix.Reads .between "| sudo bash -s -- \\\n  --server-url ".toList
      [.operator "|".toList, .word "sudo".toList, .word "bash".toList, .word "-s".toList,
        .word "--".toList, .word "--server-url".toList] .between from rfl))).append
    (posix_reads_quoted request.serverUrl)
  have control := (server.append (posix_reads_gap _
    (show posix.Reads .between "\\\n  --control-url ".toList
      [.word "--control-url".toList] .between from rfl))).append
    (posix_reads_quoted request.controlUrl)
  have token := (control.append (posix_reads_gap _
    (show posix.Reads .between "\\\n  --token ".toList
      [.word "--token".toList] .between from rfl))).append
    (posix_reads_quoted request.token)
  have channel := (token.append (posix_reads_gap _
    (show posix.Reads .between "\\\n  --channel ".toList
      [.word "--channel".toList] .between from rfl))).append
    (posix_reads_quoted request.channel)
  have root := (channel.append (posix_reads_gap _
    (show posix.Reads .between "\\\n  --root ".toList
      [.word "--root".toList] .between from rfl))).append
    (posix_reads_quoted request.root)
  have ended : posix.finish (.word request.root) = some [.word request.root] := rfl
  exact root.split ended

/-- The words that PowerShell makes of the command. -/
def windowsSplit (request : InstallCommandRequest) : List (List Char) :=
  ["powershell".toList, "-ExecutionPolicy".toList, "Bypass".toList, "-File".toList] ++
    brokenWords (installScriptUrl "windows" request.serverUrl) ++
    ["-ServerUrl".toList] ++ brokenWords request.serverUrl ++
    ["-ControlUrl".toList] ++ brokenWords request.controlUrl ++
    ["-Token".toList] ++ brokenWords request.token ++
    ["-Channel".toList] ++ brokenWords request.channel ++
    ["-Root".toList] ++ brokenWords request.root

theorem windows_split (request : InstallCommandRequest) :
    powerShell.split (windowsInstallCommand request) = some (windowsSplit request) := by
  have url : powerShell.Reads .between _ _ _ :=
    (show powerShell.Reads .between "powershell -ExecutionPolicy Bypass -File ".toList
      ["powershell".toList, "-ExecutionPolicy".toList, "Bypass".toList, "-File".toList]
      .between from rfl).append
      (powerShell_reads_quoted (installScriptUrl "windows" request.serverUrl))
  have server := (url.append (powerShell_reads_gap _
    (show powerShell.Reads .between "-ServerUrl ".toList ["-ServerUrl".toList] .between
      from rfl))).append (powerShell_reads_quoted request.serverUrl)
  have control := (server.append (powerShell_reads_gap _
    (show powerShell.Reads .between "-ControlUrl ".toList ["-ControlUrl".toList] .between
      from rfl))).append (powerShell_reads_quoted request.controlUrl)
  have token := (control.append (powerShell_reads_gap _
    (show powerShell.Reads .between "-Token ".toList ["-Token".toList] .between
      from rfl))).append (powerShell_reads_quoted request.token)
  have channel := (token.append (powerShell_reads_gap _
    (show powerShell.Reads .between "-Channel ".toList ["-Channel".toList] .between
      from rfl))).append (powerShell_reads_quoted request.channel)
  have root := (channel.append (powerShell_reads_gap _
    (show powerShell.Reads .between "-Root ".toList ["-Root".toList] .between
      from rfl))).append (powerShell_reads_quoted request.root)
  have ended : powerShell.finish (.singleQuote (broken [] request.root).2) =
      some [(broken [] request.root).2] := rfl
  have whole : powerShell.split (windowsInstallCommand request) = _ := root.split ended
  rw [whole, windowsSplit]
  simp only [brokenWords, List.append_assoc, List.cons_append, List.nil_append]

def quotes (request : InstallCommandRequest) : Nat :=
  2 * request.serverUrl.count '\'' + request.controlUrl.count '\'' + request.token.count '\'' +
    request.channel.count '\'' + request.root.count '\''

/-- Each quote makes two more words. -/
theorem windowsSplit_length (request : InstallCommandRequest) :
    (windowsSplit request).length = (windowsWords request).length + 2 * quotes request := by
  have url : (installScriptUrl "windows" request.serverUrl).count '\'' =
      request.serverUrl.count '\'' := by
    have rest : ("/api/v1/install/script?platform=".toList).count '\'' = 0 := by decide
    have rest' : ("windows".toList).count '\'' = 0 := by decide
    simp only [installScriptUrl, List.count_append, rest, rest', Nat.add_zero]
  simp only [windowsSplit, List.length_append, brokenWords_length, url, windowsWords, quotes,
    List.length_cons, List.length_nil]
  omega

/-- The commands are split into the intended words. -/
structure WellQuoted (request : InstallCommandRequest) : Prop where
  linux : ∃ command, buildInstallCommand "linux" request = .ok command ∧
    posix.split command = some (linuxWords request)
  windows : ∃ command, buildInstallCommand "windows" request = .ok command ∧
    powerShell.split command = some (windowsWords request)

/-- The command for Linux is always split as intended, the one for Windows just if no value
    has a single quote. -/
theorem quoting_iff (request : InstallCommandRequest) :
    (∃ command, buildInstallCommand "linux" request = .ok command ∧
      posix.split command = some (linuxWords request)) ∧
    (WellQuoted request ↔
      ∀ value ∈ [request.serverUrl, request.controlUrl, request.token, request.channel,
        request.root], '\'' ∉ value) := by
  have linux : ∃ command, buildInstallCommand "linux" request = .ok command ∧
      posix.split command = some (linuxWords request) :=
    ⟨linuxInstallCommand request, rfl, linux_split request⟩
  refine ⟨linux, ?_⟩
  constructor
  · intro well
    obtain ⟨command, built, split⟩ := well.windows
    have same : windowsInstallCommand request = command := Except.ok.inj built
    rw [← same, windows_split, Option.some.injEq] at split
    have lengths := windowsSplit_length request
    rw [split] at lengths
    have none_left : quotes request = 0 := by omega
    unfold quotes at none_left
    intro value member
    rw [← List.count_eq_zero]
    simp only [List.mem_cons, List.not_mem_nil, or_false] at member
    rcases member with rfl | rfl | rfl | rfl | rfl
    all_goals omega
  · intro plain
    refine ⟨linux, windowsInstallCommand request, rfl, ?_⟩
    have server := plain request.serverUrl (by simp)
    have url : '\'' ∉ installScriptUrl "windows" request.serverUrl := by
      rw [installScriptUrl, List.append_assoc, List.mem_append, not_or]
      exact ⟨server, by decide⟩
    rw [windows_split, windowsSplit, brokenWords_plain url, brokenWords_plain server,
      brokenWords_plain (plain request.controlUrl (by simp)),
      brokenWords_plain (plain request.token (by simp)),
      brokenWords_plain (plain request.channel (by simp)),
      brokenWords_plain (plain request.root (by simp))]
    rfl

def quotedRoot : InstallCommandRequest :=
  ⟨"https://fleet".toList, "tcp://fleet:7000".toList, "t0".toList, "stable".toList,
    "C:\\Users\\O'Neil".toList⟩

theorem quoted_root_split : ¬ WellQuoted quotedRoot := by
  intro well
  obtain ⟨command, built, split⟩ := well.windows
  have same : windowsInstallCommand quotedRoot = command := Except.ok.inj built
  rw [← same] at split
  exact absurd split (by decide +kernel)

end InstallCommands
