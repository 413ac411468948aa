/-
  Programs that look after files: listing, creating, copying, moving and removing them, and taking
  their names apart.
-/
import Playbook.Shell.Tool.Basic
import Playbook.Shell.Tool.Moments

namespace Playbook.Shell.Tool

open Playbook.Text

/-! ## Names -/

/-- A name in quotes, as programs show it. -/
def quotedName (s : String) : String :=
  let cs := s.toList
  if !cs.contains '\'' then "'" ++ s ++ "'"
  else if cs.any "\"$`\\!".toList.contains then
    "'" ++ String.ofList (cs.flatMap fun c => if c == '\'' then "'\\''".toList else [c]) ++ "'"
  else "\"" ++ s ++ "\""

/-- A path without the separators at its end. -/
def withoutSlashes (path : String) : String :=
  let cut := onString (dropRightWhile (· == '/')) path
  if cut.isEmpty && !path.isEmpty then "/" else cut

/-- The last segment of a path. -/
def lastSegment (path : String) : String :=
  let path := withoutSlashes path
  if path == "/" then path else (Path.segments path).getLastD ""

/-- What leads to the last segment of a path. -/
def leadingSegments (path : String) : String :=
  let path := withoutSlashes path
  if path == "/" then "/"
  else
    match (Path.segments path).dropLast with
    | [] => "."
    | front => withoutSlashes (Path.ofSegments front ++ "/")

/-- A name below a path. -/
def below (path name : String) : String :=
  if path.endsWith "/" then path ++ name else path ++ "/" ++ name

/-- Cuts an ending off a name, unless nothing would be left. -/
def withoutEnding (ending name : String) : String :=
  if ending == name then name
  else
    match dropEnd? ending.toList name.toList with
    | some cs => String.ofList cs
    | none => name

/-- Prints the last segments of paths. -/
def basename : Tool := withOptions
  { name := "basename", letters := "as:z", inFront := true
    long := [("multiple", 'a'), ("suffix", 's'), ("zero", 'z')] } fun given words => do
  let ended := if has given 'z' then "\x00" else "\n"
  let several := has given 'a' || has given 's'
  let ending := (valueOf? given 's').getD ""
  match words with
  | [] => misuse "basename" "missing operand"
  | path :: rest =>
    if several then
      for path in words do
        say (withoutEnding ending (lastSegment path) ++ ended)
      return 0
    else
      match rest with
      | [] =>
        say (lastSegment path ++ ended)
        return 0
      | [ending] =>
        say (withoutEnding ending (lastSegment path) ++ ended)
        return 0
      | _ :: extra :: _ => misuse "basename" s!"extra operand {quotedName extra}"

/-- Prints what leads to the last segments of paths. -/
def dirname : Tool := withOptions
  { name := "dirname", letters := "z", long := [("zero", 'z')] } fun given words => do
  if words.isEmpty then
    misuse "dirname" "missing operand"
  else
    for path in words do
      say (leadingSegments path ++ (if has given 'z' then "\x00" else "\n"))
    return 0

/-! ## Kinds and modes -/

/-- The place of a path; the file itself if it is a link and links are not followed. -/
def placeOf (path : String) (follow : Bool := true) : Run (Except Fault Place) := do
  return Files.locate (← get).disk path follow

/-- What a path leads to; none if there is nothing. -/
def nodeOf (path : String) (follow : Bool := true) : Run (Except Fault (Place × Option Node)) := do
  let g ← get
  return (Files.locate g.disk path follow).map fun at_ => (at_, g.disk.node? at_)

/-- What has to be at a path. -/
def existing (path : String) (follow : Bool := true) : Run (Except Fault (Place × Node)) := do
  match ← nodeOf path follow with
  | .ok (at_, some n) => return .ok (at_, n)
  | .ok (_, none) => return .error .noEntry
  | .error f => return .error f

/-- Changes the disk. -/
def onDisk (f : Disk → Disk) : Run Unit := modify fun g => { g with disk := f g.disk }

/-- Puts bytes into a file, which need not exist. -/
def rewrite (at_ : Place) (cs : List Char) : Run Unit := modify (·.rewrite at_ cs)

/-- Who may do what, in letters. The three marks above the permissions change the letters for
execution. -/
def modeLetters (mode : Nat) : String :=
  let bit := fun (k : Nat) => mode / Nat.pow 2 k % 2 = 1
  String.ofList ((List.range 9).map fun i =>
    if i % 3 = 2 && bit (11 - i / 3) then
      (if i = 8 then (if bit 0 then 't' else 'T') else if bit (8 - i) then 's' else 'S')
    else if bit (8 - i) then "rwx".toList.getD (i % 3) '-' else '-')

/-- The letter of a kind of file. -/
def kindLetter : Node → String
  | .directory => "d"
  | .link _ => "l"
  | .device => "c"
  | _ => "-"

/-- How many bytes a file takes. -/
def byteCount (d : Disk) (at_ : Place) : Nat :=
  match d.node? at_ with
  | some .directory => 4096
  | some (.link target) => target.utf8ByteSize
  | _ => (Files.bytesAt d at_).length

/-- How many names a file has. -/
def namesCount (d : Disk) (at_ : Place) : Nat :=
  match d.node? at_ with
  | some .directory =>
    2 + ((d.children at_).filter fun n => d.node? (at_ ++ [n]) == some .directory).length
  | _ => (Files.twins d at_).length

/-- The number of a file. -/
def serial (d : Disk) (at_ : Place) : Nat :=
  let same := Files.twins d at_
  (d.nodes.findIdx fun (e : Place × Node) => same.contains e.1) + 2

/-- How many blocks of 1024 bytes a file takes. -/
def blocks (d : Disk) (at_ : Place) : Nat :=
  match d.node? at_ with
  | some (.link _) => 0
  | _ => 4 * ((byteCount d at_ + 4095) / 4096)

/-! ## Listing -/

/-- How a listing is made. -/
structure Listing where
  given : List Given
  /-- The moment that it is, in seconds. -/
  now : Int

namespace Listing

def has (l : Listing) (c : Char) : Bool := Tool.has l.given c

/-- The letter of the option that says how names are arranged. -/
def arrangement (l : Listing) : Char :=
  l.given.foldl (fun format g =>
    match g.letter with
    | 'l' | 'g' | 'o' | 'n' => 'l'
    | '1' => if format == 'l' then 'l' else '1'
    | 'C' | 'x' | 'm' => g.letter
    | _ => format) '1'

/-- Whether there is a line for each file with its facts. -/
def isLong (l : Listing) : Bool := l.arrangement == 'l'

/-- Whether links that are named are shown themselves. -/
def showsLinks (l : Listing) : Bool := l.has 'd' || l.isLong || l.has 'F'

/-- The sign behind a name that tells what kind of file it is. -/
def sign (l : Listing) (d : Disk) (at_ : Place) : String :=
  match d.node? at_ with
  | some .directory => if l.has 'F' || l.has 'p' then "/" else ""
  | some (.link _) => if l.has 'F' && !l.isLong then "@" else ""
  | some _ => if l.has 'F' && Files.isProgram d at_ then "*" else ""
  | none => ""

/-- A size for people. -/
def readableSize (n : Nat) : String :=
  if n < 1024 then toString n
  else
    let tenths := (n * 10 + 1023) / 1024
    if tenths < 100 then s!"{tenths / 10}.{tenths % 10}K"
    else if n < 1024 * 1024 then s!"{(n + 1023) / 1024}K"
    else s!"{(n + 1048575) / 1048576}M"

/-- A number of blocks. -/
def blocksText (l : Listing) (n : Nat) : String :=
  if l.has 'h' then readableSize (n * 1024) else toString n

/-- A character of a name with backslashes. -/
def escaped (quotes : Bool) (c : Char) : List Char :=
  if c == '\n' then ['\\', 'n']
  else if c == '\t' then ['\\', 't']
  else if c == '\\' then ['\\', '\\']
  else if quotes && c == '"' then ['\\', '"']
  else if !quotes && c == ' ' then ['\\', ' ']
  else if c.toNat < 32 || 126 < c.toNat then
    let ds := Nat.toDigits 8 c.toNat
    '\\' :: (List.replicate (3 - ds.length) '0' ++ ds)
  else [c]

/-- A name as it is shown. -/
def shownName (l : Listing) (name : String) : String :=
  if l.has 'Q' then "\"" ++ onString (·.flatMap (escaped true)) name ++ "\""
  else if l.has 'b' then onString (·.flatMap (escaped false)) name
  else name

/-- When a file was changed, as it is shown: the time of day, or the year for what is long ago. -/
def timeText (l : Listing) (t : Int) : String :=
  let recent := l.now - 15778476 < t && t ≤ l.now
  let form := match valueOf? l.given 'W' with
    | some "full-iso" => "%F %T.%N %z"
    | some "long-iso" => "%F %H:%M"
    | some "iso" => if recent then "%m-%d %H:%M" else "%F "
    | some style =>
      match style.toList with
      | '+' :: form => String.ofList form
      | _ => if recent then "%b %e %H:%M" else "%b %e  %Y"
    | none => if recent then "%b %e %H:%M" else "%b %e  %Y"
  momentText t form.toList

/-- A text with blanks in front up to a width. -/
def rightward (width : Nat) (s : String) : String :=
  String.ofList (List.replicate (width - s.length) ' ') ++ s

/-- The width of the widest text. -/
def widest (texts : List String) : Nat := (texts.map String.length).foldl max 0

/-- What stands in front of the names: numbers of files and of blocks, if they are asked for. -/
def fronts (l : Listing) (d : Disk) (entries : List (String × Place)) : List String :=
  let column := fun (c : Char) (f : Place → String) =>
    let texts := entries.map fun (e : String × Place) => f e.2
    texts.map fun t => if l.has c then rightward (widest texts) t ++ " " else ""
  List.zipWith (· ++ ·) (column 'i' fun at_ => toString (serial d at_))
    (column 's' fun at_ => l.blocksText (blocks d at_))

/-- The texts for names with their places. -/
def lines (l : Listing) (d : Disk) (entries : List (String × Place)) : List String :=
  let shown := entries.zip (l.fronts d entries)
  if !l.isLong then
    shown.map fun ((name, at_), front) => front ++ l.shownName name ++ l.sign d at_
  else
    let links := entries.map fun (e : String × Place) => toString (namesCount d e.2)
    let sizes := entries.map fun (e : String × Place) =>
      let n := byteCount d e.2
      if l.has 'h' then readableSize n else toString n
    (shown.zip (links.zip sizes)).map fun (((name, at_), front), count, size) =>
      let kind := ((d.node? at_).map kindLetter).getD "-"
      let target := match d.node? at_ with
        | some (.link target) => " -> " ++ l.shownName (inward target)
        | _ => ""
      let owner := if l.has 'g' then "" else if l.has 'n' then "0 " else "root "
      let group := if l.has 'o' then "" else if l.has 'n' then "0 " else "root "
      front ++ kind ++ modeLetters (Files.mode d at_) ++ " " ++ rightward (widest links) count ++
        " " ++ owner ++ group ++ rightward (widest sizes) size ++ " " ++
        l.timeText (Files.time d at_ / 1000) ++ " " ++ l.shownName name ++ l.sign d at_ ++ target

/-! ### Columns -/

/-- How many characters a line holds. -/
def lineWidth (l : Listing) : Nat :=
  match (valueOf? l.given 'w').bind fun w => Number.digits? w.toList with
  | some 0 => 1000000
  | some n => n
  | none => 80

/-- The columns that a place in the list of names falls into. -/
def columnOf (down : Bool) (count columns i : Nat) : Nat :=
  if down then i / ((count + columns - 1) / columns) else i % columns

/-- The widths of a number of columns. -/
def columnWidths (down : Bool) (columns : Nat) (names : List String) : List Nat :=
  (List.range columns).map fun k =>
    (names.zipIdx.filterMap fun (name, i) =>
      if columnOf down names.length columns i = k then
        some (name.length + (if k + 1 = columns then 0 else 2))
      else none).foldl max 3

/-- The blanks between two places of a line; tabulators reach further. -/
def gap : (steps : Nat) → (from_ last : Nat) → List Char
  | 0, _, _ => []
  | n + 1, from_, last =>
    if last ≤ from_ then []
    else if (from_ + 1) / 8 < last / 8 then '\t' :: gap n (from_ + (8 - from_ % 8)) last
    else ' ' :: gap n (from_ + 1) last

/-- A line of names in columns. -/
def columnLine : (widths : List Nat) → (at_ : Nat) → List String → List Char
  | w :: ws, at_, name :: next :: rest =>
    name.toList ++ gap (w + 1) (at_ + name.length) (at_ + w) ++
      columnLine ws (at_ + w) (next :: rest)
  | _, _, names => (names.headD "").toList

/-- Names in as many columns as a line holds. -/
def inColumns (line : Nat) (down : Bool) (names : List String) : List String :=
  let most := min names.length (max 1 ((line + 2) / 3))
  let fits := fun (k : Nat) => k ≤ 1 || (columnWidths down k names).foldl (· + ·) 0 < line
  let columns := ((List.range most).map (most - ·)).find? fits |>.getD 1
  let widths := columnWidths down columns names
  let rows := (names.length + columns - 1) / columns
  (List.range rows).map fun row =>
    let here := names.zipIdx.filterMap fun (name, i) =>
      if (if down then i % rows else i / columns) = row then some name else none
    String.ofList (columnLine widths 0 here)

/-- Names with commas between them, in lines. -/
def withCommas (line : Nat) : (at_ : Nat) → List String → String
  | _, [] => ""
  | _, [name] => name
  | at_, name :: next :: rest =>
    let at_ := at_ + name.length
    if at_ + next.length + 2 < line then name ++ ", " ++ withCommas line (at_ + 2) (next :: rest)
    else name ++ ",\n" ++ withCommas line 0 (next :: rest)

/-- Texts for names as lines. -/
def arranged (l : Listing) (names : List String) : List String :=
  if names.isEmpty then []
  else
    match l.arrangement with
    | 'C' => inColumns l.lineWidth true names
    | 'x' => inColumns l.lineWidth false names
    | 'm' => [withCommas l.lineWidth 0 names]
    | _ => names

/-- Names in the order of the listing. -/
def ordered (l : Listing) (d : Disk) (entries : List (String × Place)) :
    List (String × Place) :=
  if l.has 'U' || l.has 'f' then entries
  else
    let sorted := entries.mergeSort fun a b => a.1 ≤ b.1
    let sorted := if l.has 'S' then
        sorted.mergeSort fun a b => byteCount d b.2 ≤ byteCount d a.2
      else if l.has 't' then
        sorted.mergeSort fun a b => Files.time d b.2 ≤ Files.time d a.2
      else sorted
    if l.has 'r' then sorted.reverse else sorted

/-- What a directory holds, as it is shown. -/
def inside (l : Listing) (d : Disk) (at_ : Place) : List (String × Place) :=
  let names := (d.children at_).map inward
  let shown := if l.has 'a' || l.has 'A' || l.has 'f' then names
    else names.filter fun n => !n.startsWith "."
  let entries := shown.map fun n => (n, at_ ++ [outward n])
  l.ordered d
    ((if l.has 'a' || l.has 'f' then [(".", at_), ("..", at_.dropLast)] else []) ++ entries)

/-- How many blocks files take. -/
def total (d : Disk) (entries : List (String × Place)) : Nat :=
  (entries.map fun (e : String × Place) => blocks d e.2).foldl (· + ·) 0

/-- Shows a directory and, if it is asked for, those in it. -/
def directory (l : Listing) (d : Disk) : (steps : Nat) → (titled first : Bool) →
    (name : String) → Place → List String
  | 0, _, _, _, _ => []
  | n + 1, titled, first, name, at_ =>
    let entries := l.inside d at_
    let title := (if first then [] else [""]) ++ (if titled then [name ++ ":"] else [])
    let sum := if l.isLong || l.has 's' then ["total " ++ l.blocksText (total d entries)] else []
    let deeper := if l.has 'R' then
        entries.flatMap fun (entry, place) =>
          if entry != "." && entry != ".." && d.node? place == some .directory then
            directory l d n true false (below name entry) place
          else []
      else []
    title ++ sum ++ l.arranged (l.lines d entries) ++ deeper

end Listing

/-- Lists directories. -/
def ls : Tool := withOptions
  { name := "ls", letters := "aA1CdlFpRrStUifhgonsLHuckbNQxmBGTDvXZqw:W:", status := 2
    long := [("all", 'a'), ("almost-all", 'A'), ("directory", 'd'), ("classify", 'F'),
      ("recursive", 'R'), ("reverse", 'r'), ("human-readable", 'h'), ("inode", 'i'),
      ("size", 's'), ("color", 'G'), ("numeric-uid-gid", 'n'), ("quote-name", 'Q'),
      ("escape", 'b'), ("width", 'w'), ("time-style", 'W'), ("full-time", 'Y'),
      ("literal", 'N')] } fun given paths => do
  let given := given.flatMap fun g =>
    if g.letter == 'Y' then [{ letter := 'l' }, { letter := 'W', value := "full-iso" }] else [g]
  let l : Listing := ⟨given, (← get).now / 1000⟩
  let paths := if paths.isEmpty then ["."] else paths
  let mut files : List (String × Place) := []
  let mut directories : List (String × Place) := []
  let mut failed := false
  for path in paths do
    match ← existing path (!l.showsLinks) with
    | .error f =>
      match ← existing path false with
      | .ok (at_, _) => files := (path, at_) :: files
      | .error _ =>
        sayError s!"ls: cannot access {quotedName path}: {faultText f}\n"
        failed := true
    | .ok (at_, .directory) =>
      if l.has 'd' then files := (path, at_) :: files
      else directories := (path, at_) :: directories
    | .ok (at_, _) => files := (path, at_) :: files
  let d := (← get).disk
  let named := l.ordered d files.reverse
  let fileLines := l.arranged (l.lines d named)
  let titled := 1 < paths.length || l.has 'R'
  let parts := (l.ordered d directories.reverse).zipIdx.flatMap fun ((path, at_), i) =>
    l.directory d 64 titled (i == 0 && named.isEmpty) path at_
  let all := fileLines ++ parts
  if !all.isEmpty then say (joinStrings "\n" all ++ "\n")
  return if failed then 2 else 0

/-! ## Creating -/

/-- The mode of a new directory. -/
def newMode : Run Nat := do
  let g ← get
  return 0o777 - (0o777 &&& g.machine.umask)

/-- Makes a directory at a place. -/
def makeDirectory (at_ : Place) (mode : Nat) : Run Unit :=
  onDisk fun d =>
    let d := d.setNode at_ .directory
    if mode = 0o755 then d else Files.setMode d at_ mode

/-- The mode after changes in letters: who, an operation, and permissions. -/
def symbolic? (umask mode : Nat) (isDirectory : Bool) : (steps : Nat) → List Char → Option Nat
  | 0, _ => none
  | n + 1, cs =>
    let who := cs.takeWhile "ugoa".toList.contains
    let rest := cs.drop who.length
    let affected := (if who.contains 'u' || who.contains 'a' then 0o4700 else 0) |||
      (if who.contains 'g' || who.contains 'a' then 0o2070 else 0) |||
      (if who.contains 'o' || who.contains 'a' then 0o1007 else 0)
    let mask := if who.isEmpty then 0o7777 - (0o7777 &&& umask) else affected
    let rec operations : (steps : Nat) → Nat → List Char → Option (Nat × List Char)
      | 0, _, _ => none
      | k + 1, mode, o :: rest =>
        if o == '+' || o == '-' || o == '=' then
          let letters := rest.takeWhile "rwxXstugo".toList.contains
          let bits := letters.foldl (fun b c => b ||| (match c with
            | 'r' => 0o444
            | 'w' => 0o222
            | 'x' => 0o111
            | 'X' => if isDirectory || mode &&& 0o111 != 0 then 0o111 else 0
            | 's' => 0o6000
            | 't' => 0o1000
            | 'u' => mode / 64 % 8 * 0o111
            | 'g' => mode / 8 % 8 * 0o111
            | _ => mode % 8 * 0o111)) 0
          let bits := bits &&& mask
          let mode := match o with
            | '+' => mode ||| bits
            | '-' => mode - (mode &&& bits)
            | _ =>
              -- the marks of a directory stay unless they are spelled out
              let kept := if isDirectory && !letters.contains 's' then mode &&& 0o6000 else 0
              let others := if who.isEmpty then 0 else mode - (mode &&& affected)
              others ||| kept ||| bits
          operations k mode (rest.drop letters.length)
        else some (mode, o :: rest)
      | _, mode, [] => some (mode, [])
    match rest with
    | [] => none
    | o :: _ =>
      if !(o == '+' || o == '-' || o == '=') then none
      else
        match operations (rest.length + 1) mode rest with
        | some (mode, []) => some mode
        | some (mode, ',' :: more) => symbolic? umask mode isDirectory n more
        | _ => none

/-- The mode that a text asks for. -/
def modeOf? (umask mode : Nat) (isDirectory : Bool) (text : String) : Option Nat :=
  let cs := text.toList
  if !cs.isEmpty && cs.all (fun c => '0' ≤ c && c ≤ '7') then
    let n := cs.foldl (fun n c => n * 8 + (c.toNat - '0'.toNat)) 0
    -- the marks of a directory stay unless they are spelled out
    let kept := if isDirectory && cs.length < 5 then mode &&& 0o6000 else 0
    if n ≤ 0o7777 then some (n ||| kept) else none
  else symbolic? umask mode isDirectory (cs.length + 1) cs

/-- Makes all directories on the way to a path; what was made is told. A fault comes with the path
that has it. -/
def makeAll (tell : String → Run Unit) (mode : Nat) : (path : String) → List String →
    Run (Except (String × Fault) Unit)
  | _, [] => return .ok ()
  | path, name :: rest => do
    let path := path ++ name
    if Path.isFiller name || name == ".." then makeAll tell mode (path ++ "/") rest
    else
      match ← nodeOf path with
      | .error f => return .error (path, f)
      | .ok (_, some .directory) => makeAll tell mode (path ++ "/") rest
      | .ok (_, some _) =>
        return .error (path, if rest.all Path.isFiller then .exists_ else .notDirectory)
      | .ok (at_, none) =>
        makeDirectory at_ mode
        tell path
        makeAll tell mode (path ++ "/") rest

/-- Makes directories. -/
def mkdir : Tool := withOptions
  { name := "mkdir", letters := "pm:v"
    long := [("parents", 'p'), ("mode", 'm'), ("verbose", 'v')] }
  fun given paths => do
    let usual ← newMode
    let umask := (← get).machine.umask
    let tell := fun (path : String) =>
      if has given 'v' then say s!"mkdir: created directory {quotedName path}\n" else pure ()
    if paths.isEmpty then
      misuse "mkdir" "missing operand"
    else
      match ((valueOf? given 'm').map (modeOf? umask 0o777 true)).getD (some usual) with
      | none =>
        report "mkdir" ("invalid mode " ++ quotedName ((valueOf? given 'm').getD ""))
        return 1
      | some mode => do
        let mut failed := false
        for path in paths do
          if has given 'p' then
            match ← makeAll tell usual "" (Path.segments path) with
            | .ok () =>
              if has given 'm' then
                match ← placeOf path with
                | .ok at_ => onDisk (Files.setMode · at_ mode)
                | .error _ => pure ()
            | .error (at_, f) =>
              report "mkdir" s!"cannot create directory {quotedName at_}: {faultText f}"
              failed := true
          else
            match ← nodeOf (withoutSlashes path) with
            | .ok (at_, none) =>
              makeDirectory at_ mode
              tell path
            | .ok (_, some _) =>
              report "mkdir" s!"cannot create directory {quotedName path}: File exists"
              failed := true
            | .error f =>
              report "mkdir" s!"cannot create directory {quotedName path}: {faultText f}"
              failed := true
        return statusOf failed

/-- Removes a directory and, if asked, those that lead to it. -/
def removeDirectories (tell : String → Run Unit) (parents : Bool) : (steps : Nat) → String →
    Run (Option (String × Fault))
  | 0, _ => return none
  | n + 1, path => do
    tell path
    match ← existing path false with
    | .error f => return some (path, f)
    | .ok (at_, .directory) =>
      if !((← get).disk.children at_).isEmpty then
        return some (path, .other "Directory not empty")
      onDisk (Files.removed · at_)
      let parent := leadingSegments path
      if parents && parent != "." && parent != "/" then removeDirectories tell parents n parent
      else return none
    | .ok _ => return some (path, .notDirectory)

/-- Removes empty directories. -/
def rmdir : Tool := withOptions
  { name := "rmdir", letters := "pv"
    long := [("parents", 'p'), ("verbose", 'v'), ("ignore-fail-on-non-empty", 'i')] }
  fun given paths => do
    let tell := fun (path : String) =>
      if has given 'v' then say s!"rmdir: removing directory, {quotedName path}\n" else pure ()
    if paths.isEmpty then
      misuse "rmdir" "missing operand"
    else
      let mut failed := false
      for path in paths do
        match ← removeDirectories tell (has given 'p') 256 path with
        | none => pure ()
        | some (at_, f) =>
          if !(has given 'i' && f == .other "Directory not empty") then
            let what := if at_ == path then "failed to remove" else "failed to remove directory"
            report "rmdir" s!"{what} {quotedName at_}: {faultText f}"
            failed := true
      return statusOf failed

/-- The moment that files are to have, in milliseconds. -/
def momentGiven (given : List Given) : Run (Except String Int) := do
  let now := (← get).now
  match valueOf? given 'r', valueOf? given 't', valueOf? given 'd' with
  | some path, _, _ =>
    match ← existing path with
    | .ok (at_, _) => return .ok (Files.time (← get).disk at_)
    | .error f => return .error s!"failed to get attributes of {quotedName path}: {faultText f}"
  | none, some ds, _ =>
    match secondsOfDigits? (now / 1000) ds with
    | some n => return .ok (n * 1000)
    | none => return .error s!"invalid date format {quotedName ds}"
  | none, none, some text =>
    match secondsOf? (now / 1000) text with
    | some n => return .ok (n * 1000)
    | none => return .error s!"invalid date format {quotedName text}"
  | none, none, none => return .ok now

/-- Gives files a moment; those that are missing are created. -/
def touch : Tool := withOptions
  { name := "touch", letters := "acmd:t:r:hf"
    long := [("no-create", 'c'), ("date", 'd'), ("reference", 'r'), ("no-dereference", 'h')] }
  fun given paths => do
    match ← momentGiven given with
    | .error what =>
      report "touch" what
      return 1
    | .ok moment =>
      if paths.isEmpty then
        misuse "touch" "missing file operand"
      else
        let mut failed := false
        for path in paths do
          if path != "-" then
            match ← nodeOf path (!has given 'h') with
            | .ok (at_, some _) =>
              if !has given 'a' || has given 'm' then onDisk (Files.setTime · at_ moment)
            | .ok (at_, none) =>
              if path.endsWith "/" && !has given 'c' then
                report "touch" s!"cannot touch {quotedName path}: No such file or directory"
                failed := true
              else if !has given 'c' then
                modify (·.created at_)
                onDisk (Files.setTime · at_ moment)
            | .error f =>
              if !has given 'c' then
                report "touch" s!"cannot touch {quotedName path}: {faultText f}"
                failed := true
        return statusOf failed

/-- Sets the size of files. -/
def truncate : Tool := withOptions
  { name := "truncate", letters := "s:c", long := [("size", 's'), ("no-create", 'c')] }
  fun given paths => do
    match valueOf? given 's' with
    | none => misuse "truncate" "you must specify either '--size' or '--reference'"
    | some text =>
      if paths.isEmpty then
        misuse "truncate" "missing file operand"
      else
        let sign := text.toList.takeWhile fun c => "+-<>/%".toList.contains c
        match size? (String.ofList (text.toList.drop sign.length)) with
        | none =>
          report "truncate" s!"Invalid number: {quotedName text}"
          return 1
        | some n => do
          let mut failed := false
          for path in paths do
            match ← nodeOf path with
            | .error f =>
              report "truncate" s!"cannot open {quotedName path} for writing: {faultText f}"
              failed := true
            | .ok (_, some .directory) =>
              report "truncate" s!"cannot open {quotedName path} for writing: Is a directory"
              failed := true
            | .ok (at_, found) =>
              if found.isSome || !has given 'c' then
                if found.isNone then modify (·.created at_)
                let old := Files.bytesAt (← get).disk at_
                let size := match sign with
                  | ['+'] => old.length + n
                  | ['-'] => old.length - n
                  | ['<'] => min old.length n
                  | ['>'] => max old.length n
                  | _ => n
                let new := old.take size ++ List.replicate (size - old.length) '\x00'
                rewrite at_ new
          return statusOf failed

/-! ## Removing, copying and moving -/

/-- The places below a place, those in a directory before it. -/
def belowFirst (d : Disk) : (steps : Nat) → (path : String) → Place → List (String × Place)
  | 0, _, _ => []
  | n + 1, path, at_ =>
    match d.node? at_ with
    | some .directory =>
      ((d.children at_).flatMap fun name =>
        belowFirst d n (below path (inward name)) (at_ ++ [name])) ++ [(path, at_)]
    | some _ => [(path, at_)]
    | none => []

/-- Removes files and, if asked to, directories. -/
def rm : Tool := withOptions
  { name := "rm", letters := "rRfdvi"
    long := [("recursive", 'r'), ("force", 'f'), ("dir", 'd'), ("verbose", 'v')] }
  fun given paths => do
    let all := has given 'r' || has given 'R'
    if paths.isEmpty then
      if has given 'f' then return 0 else misuse "rm" "missing operand"
    else
      let mut failed := false
      for path in paths do
        let refuse := fun (f : Fault) =>
          report "rm" s!"cannot remove {quotedName path}: {faultText f}"
        match ← existing path false with
        | .error f =>
          if !(has given 'f' && (f == .noEntry || f == .notDirectory)) then
            refuse f
            failed := true
        | .ok (at_, node) =>
          let last := lastSegment path
          if node == .directory && !all && !has given 'd' then
            refuse .isDirectory
            failed := true
          else if node == .directory && (last == "." || last == "..") then
            report "rm" s!"refusing to remove '.' or '..' directory: skipping {quotedName path}"
            failed := true
          else if node == .directory && at_.isEmpty then
            sayError "rm: it is dangerous to operate recursively on '/'\n"
            sayError "rm: use --no-preserve-root to override this failsafe\n"
            failed := true
          else if node == .directory && !all && !((← get).disk.children at_).isEmpty then
            refuse (.other "Directory not empty")
            failed := true
          else
            if has given 'v' then
              for (name, place) in belowFirst (← get).disk 64 path at_ do
                let kind := if (← get).disk.node? place == some .directory then "directory " else ""
                say s!"removed {kind}{quotedName name}\n"
            onDisk (Files.removed · at_)
      return statusOf failed

/-- The target of copying or moving: whether it is a directory, its path, and the other paths. -/
def targetOf (name : String) (given : List Given) (paths : List String) :
    Run (Except Nat (Bool × String × List String)) := do
  match valueOf? given 't', paths with
  | some target, _ =>
    if paths.isEmpty then return .error (← misuse name "missing file operand")
    return .ok (true, target, paths)
  | none, [] => return .error (← misuse name "missing file operand")
  | none, [path] =>
    return .error (← misuse name s!"missing destination file operand after {quotedName path}")
  | none, paths =>
    let target := paths.getLastD ""
    let sources := paths.dropLast
    let found := Files.find? (← get).disk target
    if has given 'T' then return .ok (false, target, sources)
    if found == some .directory then return .ok (true, target, sources)
    if 1 < sources.length then
      let why := if found.isSome then "Not a directory" else "No such file or directory"
      report name s!"target {quotedName target}: {why}"
      return .error 1
    return .ok (false, target, sources)

/-- What stands below a place, set below another place. -/
def copyTree (d : Disk) (from_ at_ : Place) : Disk :=
  let timed := d.times.filterMap fun (p, t) =>
    if from_.isPrefixOf p then some (at_ ++ p.drop from_.length, t) else none
  let d := timed.foldl (fun d (p, t) => Files.setTime d p t) d
  let moved := d.nodes.filterMap fun (p, n) =>
    if from_.isPrefixOf p then some (at_ ++ p.drop from_.length, p, n) else none
  moved.foldl (fun d (p, old, n) =>
    let d := d.setNode p n
    if Files.mode d old = Files.mode d p then d else Files.setMode d p (Files.mode d old)) d

/-- Copies one file or directory to a path. -/
def copyOne (given : List Given) (source target : String) : Run Bool := do
  let all := ['r', 'R', 'a'].any (has given)
  let follow := !all || has given 'L'
  let note := if has given 'v' then say s!"{quotedName source} -> {quotedName target}\n"
    else pure ()
  match ← existing source follow with
  | .error f =>
    report "cp" s!"cannot stat {quotedName source}: {faultText f}"
    return true
  | .ok (from_, node) =>
    if node == .directory && !all then
      report "cp" s!"-r not specified; omitting directory {quotedName source}"
      return true
    match ← nodeOf target with
    | .error f =>
      let what := if node == .directory then "directory" else "regular file"
      report "cp" s!"cannot create {what} {quotedName target}: {faultText f}"
      return true
    | .ok (at_, found) =>
      if at_ = from_ then
        report "cp" s!"{quotedName source} and {quotedName target} are the same file"
        return true
      if found.isSome && has given 'n' then return false
      match node, found with
      | .directory, none =>
        if from_.isPrefixOf at_ then
          report "cp" (s!"cannot copy a directory, {quotedName source}, into itself, " ++
            quotedName target)
          return true
        note
        onDisk fun d => copyTree d from_ at_
        return false
      | .directory, some .directory =>
        onDisk fun d => copyTree d from_ at_
        return false
      | .directory, some _ =>
        report "cp" (s!"cannot overwrite non-directory {quotedName target} with directory " ++
          quotedName source)
        return true
      | _, some .directory =>
        report "cp" s!"cannot overwrite directory {quotedName target} with non-directory"
        return true
      | node, found =>
        if target.endsWith "/" then
          report "cp" s!"cannot create regular file {quotedName target}: Not a directory"
          return true
        note
        let mode := Files.mode (← get).disk from_
        match node, found with
        | .link t, _ => onDisk (·.setNode at_ (.link t))
        | _, some .device => pure ()
        | _, _ =>
          let cs := Files.bytesAt (← get).disk from_
          if found.isNone then modify (·.created at_)
          rewrite at_ cs
          let kept := has given 'p' || has given 'a'
          if kept then onDisk fun d => Files.setTime d at_ (Files.time d from_)
          if found.isNone || kept then
            let g ← get
            let umask := if kept then 0 else g.machine.umask
            let mode := mode - (mode &&& umask)
            if Files.mode (← get).disk at_ != mode then onDisk (Files.setMode · at_ mode)
        return false

/-- Copies files and directories. -/
def cp : Tool := withOptions
  { name := "cp", letters := "rRapfvnt:TLPdiu"
    long := [("recursive", 'r'), ("archive", 'a'), ("force", 'f'), ("verbose", 'v'),
      ("no-clobber", 'n'), ("target-directory", 't'), ("no-target-directory", 'T'),
      ("preserve", 'p')] } fun given paths => do
  match ← targetOf "cp" given paths with
  | .error status => return status
  | .ok (isDirectory, target, sources) =>
    let mut failed := false
    for source in sources do
      let goal := if isDirectory then below target (lastSegment source) else target
      if ← copyOne given source goal then failed := true
    return statusOf failed

/-- Moves one file or directory to a path. -/
def moveOne (given : List Given) (source target : String) : Run Bool := do
  match ← existing source false with
  | .error f =>
    report "mv" s!"cannot stat {quotedName source}: {faultText f}"
    return true
  | .ok (from_, node) =>
    match ← nodeOf (if node == .directory then withoutSlashes target else target) false with
    | .error f =>
      report "mv" s!"cannot move {quotedName source} to {quotedName target}: {faultText f}"
      return true
    | .ok (at_, found) =>
      if at_ = from_ then
        report "mv" s!"{quotedName source} and {quotedName target} are the same file"
        return true
      if from_.isPrefixOf at_ then
        report "mv" (s!"cannot move {quotedName source} to a subdirectory of itself, " ++
          quotedName target)
        return true
      if found.isSome && has given 'n' then return false
      match node, found with
      | .directory, some .directory =>
        if !((← get).disk.children at_).isEmpty then
          report "mv" s!"cannot overwrite {quotedName target}: Directory not empty"
          return true
      | .directory, some _ =>
        report "mv" (s!"cannot overwrite non-directory {quotedName target} with directory " ++
          quotedName source)
        return true
      | _, some .directory =>
        report "mv" (s!"cannot overwrite directory {quotedName target} with non-directory " ++
          quotedName source)
        return true
      | _, _ =>
        if node != .directory && target.endsWith "/" then
          report "mv" (s!"cannot move {quotedName source} to {quotedName target}: " ++
            "Not a directory")
          return true
      onDisk fun d =>
        let twins := d.twins.map fun ps => ps.map fun p => if p = from_ then at_ else p
        { Files.removed (copyTree (Files.removed d at_) from_ at_) from_ with
          twins := twins.map fun ps => ps.eraseDups }
      if has given 'v' then say s!"renamed {quotedName source} -> {quotedName target}\n"
      return false

/-- Moves files and directories. -/
def mv : Tool := withOptions
  { name := "mv", letters := "fvnt:Tiu"
    long := [("force", 'f'), ("verbose", 'v'), ("no-clobber", 'n'), ("target-directory", 't'),
      ("no-target-directory", 'T')] } fun given paths => do
  match ← targetOf "mv" given paths with
  | .error status => return status
  | .ok (isDirectory, target, sources) =>
    let mut failed := false
    for source in sources do
      let goal := if isDirectory then below target (lastSegment source) else target
      if ← moveOne given source goal then failed := true
    return statusOf failed

/-! ## Links -/

/-- Makes one link. -/
def linkOne (given : List Given) (source target : String) : Run Bool := do
  let symbolic := has given 's'
  let what := if symbolic then "symbolic link" else "hard link"
  let node? ← existing source false
  match symbolic, node? with
  | false, .error f =>
    report "ln" s!"failed to access {quotedName source}: {faultText f}"
    return true
  | false, .ok (_, .directory) =>
    report "ln" s!"{source}: hard link not allowed for directory"
    return true
  | _, _ =>
    match ← nodeOf target false with
    | .error f =>
      report "ln" s!"failed to create {what} {quotedName target}: {faultText f}"
      return true
    | .ok (at_, found) =>
      if found == some .directory then
        report "ln" s!"{quotedName target}: cannot overwrite directory"
        return true
      if found.isSome && !has given 'f' then
        report "ln" s!"failed to create {what} {quotedName target}: File exists"
        return true
      if has given 'v' then say s!"{quotedName target} -> {quotedName source}\n"
      match symbolic, node? with
      | false, .ok (from_, n) => onDisk fun d => Files.twinned (Files.removed d at_) from_ at_ n
      | _, _ =>
        onDisk fun d => (Files.removed d at_).setNode at_ (.link (outward source))
      return false

/-- Makes links. -/
def ln : Tool := withOptions
  { name := "ln", letters := "sfnvt:Tri"
    long := [("symbolic", 's'), ("force", 'f'), ("no-dereference", 'n'), ("verbose", 'v'),
      ("target-directory", 't'), ("no-target-directory", 'T')] } fun given paths => do
  let disk := (← get).disk
  let whole := fun (target : String) =>
    Files.find? disk target (!(has given 'n' || has given 'T')) == some .directory
  match paths with
  | [] => misuse "ln" "missing file operand"
  | [source] =>
    return statusOf (← linkOne given source (lastSegment source))
  | _ =>
    let target := paths.getLastD ""
    let sources := paths.dropLast
    if whole target then
      let mut failed := false
      for source in sources do
        if ← linkOne given source (below target (lastSegment source)) then failed := true
      return statusOf failed
    else if 1 < sources.length then
      let why := if (Files.find? (← get).disk target).isSome then "Not a directory"
        else "No such file or directory"
      report "ln" s!"target {quotedName target}: {why}"
      return 1
    else return statusOf (← linkOne given (sources.headD "") target)

/-- Makes one more name for a file. -/
def link : Tool := withOptions { name := "link" } fun _ paths => do
  match paths with
  | [] => misuse "link" "missing operand"
  | [path] => misuse "link" s!"missing operand after {quotedName path}"
  | [source, target] =>
    let refuse := fun (f : Fault) => do
      report "link" s!"cannot create link {quotedName target} to {quotedName source}: {faultText f}"
      return 1
    match ← existing source false, ← nodeOf target false with
    | .error f, _ => refuse f
    | .ok (_, .directory), _ => refuse (.other "Operation not permitted")
    | _, .error f => refuse f
    | _, .ok (_, some _) => refuse .exists_
    | .ok (from_, n), .ok (at_, none) =>
      onDisk (Files.twinned · from_ at_ n)
      return 0
  | _ :: _ :: extra :: _ => misuse "link" s!"extra operand {quotedName extra}"

/-- Removes one file. -/
def unlink : Tool := withOptions { name := "unlink" } fun _ paths => do
  match paths with
  | [] => misuse "unlink" "missing operand"
  | [path] =>
    let refuse := fun (f : Fault) => do
      report "unlink" s!"cannot unlink {quotedName path}: {faultText f}"
      return 1
    match ← existing path false with
    | .error f => refuse f
    | .ok (_, .directory) => refuse .isDirectory
    | .ok (at_, _) =>
      onDisk (Files.removed · at_)
      return 0
  | _ :: extra :: _ => misuse "unlink" s!"extra operand {quotedName extra}"

/-- The place that the segments of a path name, whatever stands there. -/
def spelledPlace (at_ : Place) : List String → Place
  | [] => at_
  | name :: rest =>
    if Path.isFiller name then spelledPlace at_ rest
    else if name == ".." then spelledPlace at_.dropLast rest
    else spelledPlace (at_ ++ [name]) rest

/-- The path of a place. -/
def pathOf (at_ : Place) : String := "/" ++ joinStrings "/" (at_.map inward)

/-- Prints where links lead to. -/
def readlink : Tool := withOptions
  { name := "readlink", letters := "femnvqsz"
    long := [("canonicalize", 'f'), ("canonicalize-existing", 'e'), ("canonicalize-missing", 'm'),
      ("no-newline", 'n')] } fun given paths => do
  if paths.isEmpty then
    misuse "readlink" "missing operand"
  else
    let ended := if has given 'n' && paths.length = 1 then "" else "\n"
    let mut failed := false
    for path in paths do
      if has given 'f' || has given 'e' || has given 'm' then
        match ← nodeOf path with
        | .ok (at_, found) =>
          if has given 'e' && found.isNone then failed := true else say (pathOf at_ ++ ended)
        | .error _ =>
          if has given 'm' then
            let g ← get
            let front := if Path.isAbsolute path then [] else g.disk.here
            say (pathOf (spelledPlace front (Path.segments path)) ++ ended)
          else failed := true
      else
        match ← existing path false with
        | .ok (_, .link target) => say (inward target ++ ended)
        | _ => failed := true
    return statusOf failed

/-- Prints where paths lead to. -/
def realpath : Tool := withOptions
  { name := "realpath", letters := "emsqz"
    long := [("canonicalize-existing", 'e'), ("canonicalize-missing", 'm'), ("no-symlinks", 's'),
      ("strip", 's')] } fun given paths => do
  if paths.isEmpty then
    misuse "realpath" "missing operand"
  else
    let mut failed := false
    for path in paths do
      match ← nodeOf path with
      | .ok (at_, found) =>
        if has given 'e' && found.isNone then
          report "realpath" s!"{path}: No such file or directory"
          failed := true
        else say (pathOf at_ ++ "\n")
      | .error f =>
        if has given 'm' then
          let g ← get
          let front := if Path.isAbsolute path then [] else g.disk.here
          say (pathOf (spelledPlace front (Path.segments path)) ++ "\n")
        else
          report "realpath" s!"{path}: {faultText f}"
          failed := true
    return statusOf failed

/-! ## Modes and facts -/

/-- Four octal digits. -/
def octal4 (n : Nat) : String :=
  let ds := Nat.toDigits 8 n
  String.ofList (List.replicate (4 - ds.length) '0' ++ ds)

/-- Changes who may do what with files. -/
def chmod : Tool := fun args =>
  -- a mode that takes permissions away looks like options
  let isMode := fun (w : String) => match w.toList with
    | '-' :: c :: _ => "rwxXstugo".toList.contains c && w != "-R"
    | _ => false
  let front := args.takeWhile fun w => w.startsWith "-" && !isMode w
  let rest := args.drop front.length
  let spec : Spec :=
    { name := "chmod", letters := "Rvcfm:"
      long := [("recursive", 'R'), ("verbose", 'v'), ("changes", 'c'), ("reference", 'm')] }
  let arranged := match rest with
    | mode :: paths =>
      if isMode mode then front ++ paths.filter (·.startsWith "-") ++ "--" :: mode ::
        paths.filter (!·.startsWith "-")
      else args
    | [] => args
  flip (withOptions spec) arranged fun given words => do
    let asked : Except Fault (Option Nat) ← match valueOf? given 'm' with
      | none => pure (.ok none)
      | some path =>
        match ← existing path with
        | .ok (at_, _) => pure (.ok (some (Files.mode (← get).disk at_)))
        | .error f => pure (.error f)
    let words := if has given 'm' then "" :: words else words
    match asked, words with
    | .error f, _ =>
      let path := (valueOf? given 'm').getD ""
      report "chmod" s!"failed to get attributes of {quotedName path}: {faultText f}"
      return 1
    | _, [] => misuse "chmod" "missing operand"
    | _, [mode] =>
      misuse "chmod" (if mode.isEmpty then "missing operand"
        else s!"missing operand after {quotedName mode}")
    | .ok fixed, text :: paths =>
      let umask := (← get).machine.umask
      if fixed.isNone && (modeOf? umask 0 false text).isNone then
        misuse "chmod" s!"invalid mode: {quotedName text}"
      else
        let mut failed := false
        for path in paths do
          match ← existing path with
          | .error f =>
            report "chmod" s!"cannot access {quotedName path}: {faultText f}"
            failed := true
          | .ok (at_, _) =>
            let d := (← get).disk
            let all := if has given 'R' then (belowFirst d 64 path at_).reverse else [(path, at_)]
            for (name, place) in all do
              let old := Files.mode d place
              let isDirectory := d.node? place == some .directory
              let new := fixed.getD ((modeOf? umask old isDirectory text).getD old)
              onDisk (Files.setMode · place new)
              let shown := fun (m : Nat) => octal4 m ++ " (" ++ modeLetters m ++ ")"
              if old != new && (has given 'v' || has given 'c') then
                say s!"mode of {quotedName name} changed from {shown old} to {shown new}\n"
              else if has given 'v' then
                say s!"mode of {quotedName name} retained as {shown new}\n"
        return statusOf failed

/-- A file's fact by its letter. -/
def fact (d : Disk) (path : String) (at_ : Place) (n : Node) : Char → String
  | 'n' => path
  | 'N' =>
    match n with
    | .link target => s!"{quotedName path} -> {quotedName (inward target)}"
    | _ => quotedName path
  | 's' => toString (byteCount d at_)
  | 'a' => String.ofList (Nat.toDigits 8 (Files.mode d at_))
  | 'A' => kindLetter n ++ modeLetters (Files.mode d at_)
  | 'F' =>
    match n with
    | .directory => "directory"
    | .link _ => "symbolic link"
    | .device => "character special file"
    | _ => if byteCount d at_ = 0 then "regular empty file" else "regular file"
  | 'U' | 'G' => "root"
  | 'u' | 'g' => "0"
  | 'h' => toString (namesCount d at_)
  | 'b' => toString (2 * blocks d at_)
  | 'B' => "512"
  | 'o' => "4096"
  | 'x' | 'y' | 'z' | 'w' =>
    momentText (Files.time d at_ / 1000) "%F %T.%N %z".toList
  | 'X' | 'Y' | 'Z' | 'W' => toString (Files.time d at_ / 1000)
  | 'i' => toString (serial d at_)
  | '%' => "%"
  | c => "?" ++ String.singleton c

/-- The facts that a format asks for. -/
def facts (d : Disk) (path : String) (at_ : Place) (n : Node) (escapes : Bool) :
    List Char → List Char
  | '%' :: c :: rest => (fact d path at_ n c).toList ++ facts d path at_ n escapes rest
  | '\\' :: 'n' :: rest =>
    if escapes then '\n' :: facts d path at_ n escapes rest
    else '\\' :: 'n' :: facts d path at_ n escapes rest
  | '\\' :: 't' :: rest =>
    if escapes then '\t' :: facts d path at_ n escapes rest
    else '\\' :: 't' :: facts d path at_ n escapes rest
  | c :: rest => c :: facts d path at_ n escapes rest
  | [] => []

/-- Prints facts about files. -/
def stat : Tool := withOptions
  { name := "stat", letters := "c:Lp:ft"
    long := [("format", 'c'), ("printf", 'p'), ("dereference", 'L')] } fun given paths => do
  if paths.isEmpty then
    misuse "stat" "missing operand"
  else
    let mut failed := false
    for path in paths do
      match ← existing path (has given 'L') with
      | .error f =>
        report "stat" s!"cannot statx {quotedName path}: {faultText f}"
        failed := true
      | .ok (at_, n) =>
        let d := (← get).disk
        match valueOf? given 'p', valueOf? given 'c' with
        | some form, _ => sayChars (facts d path at_ n true form.toList)
        | none, some form => sayChars (facts d path at_ n false form.toList ++ ['\n'])
        | none, none => sayChars (facts d path at_ n false "  File: %n".toList ++ ['\n'])
    return statusOf failed

/-- Makes a file or directory with a name that nobody has. -/
def mktemp : Tool := withOptions
  { name := "mktemp", letters := "duqp:t"
    long := [("directory", 'd'), ("dry-run", 'u'), ("quiet", 'q'), ("tmpdir", 'p')] }
  fun given words => do
    let g ← get
    let home := (valueOf? given 'p').getD ((g.machine.value? "TMPDIR").getD "/tmp")
    let template := words.headD "tmp.XXXXXXXXXX"
    let cs := template.toList
    let marks := (cs.reverse.takeWhile (· == 'X')).length
    if marks < 3 then
      report "mktemp" s!"too few X's in template {quotedName template}"
      return 1
    else
      let inside := words.isEmpty || has given 'p' || has given 't'
      let named := fun (n : Nat) =>
        let ds := (List.replicate marks 'a' ++ Nat.toDigits 10 n)
        let last := ds.drop (ds.length - marks)
        let name := String.ofList (cs.take (cs.length - marks) ++ last)
        if inside then below home name else name
      let free := (List.range 1000).find? fun n => (Files.find? g.disk (named n)).isNone
      let path := named (free.getD 0)
      match ← nodeOf path with
      | .error f =>
        let kind := if has given 'd' then "directory" else "file"
        let shown := if inside then below home template else template
        report "mktemp" s!"failed to create {kind} via template {quotedName shown}: {faultText f}"
        return 1
      | .ok (at_, _) =>
        if !has given 'u' then
          if has given 'd' then makeDirectory at_ 0o700
          else
            modify (·.created at_)
            onDisk (Files.setMode · at_ 0o600)
        say (path ++ "\n")
        return 0

end Playbook.Shell.Tool
