import DefectGate.Workspace.Shell.Format
import DefectGate.Workspace.Tools.Basic

/-!
# Tools for files

Making, removing, linking, copying, moving, marking and listing files, and the parts of their paths.
-/
namespace DefectGate.Workspace.Tool

open Host (Path)
open Shell (Text)

def succeed (f : Files) (s : Session) : Session := (s.setFiles f).status 0

/-- Names a file in a message. -/
def named (file : Text) : String := s!"'{shown file}'"

/-! ## Names -/

def withoutSlashes (file : Text) : Text := (file.reverse.dropWhile (· = '/')).reverse

/-- The last name of a path. -/
def baseOf (file : Text) : Text :=
  let path := withoutSlashes file
  if path = [] then (if file = [] then [] else ['/'])
  else (path.reverse.takeWhile (· ≠ '/')).reverse

/-- What stands before the last name of a path. -/
def directoryOf (file : Text) : Text :=
  let path := withoutSlashes file
  if path = [] then (if file = [] then ['.'] else ['/'])
  else
    let parent := (path.reverse.dropWhile (· ≠ '/')).reverse
    if parent = [] then ['.']
    else
      let parent := withoutSlashes parent
      if parent = [] then ['/'] else parent

def joined (directory name : Text) : Text := withoutSlashes directory ++ '/' :: name

def basename (r : Request) (s : Session) : Session :=
  let without (suffix name : Text) : Text :=
    if suffix.length < name.length ∧ suffix.isSuffixOf name then
      name.take (name.length - suffix.length)
    else name
  let line (suffix file : Text) : Text := without suffix (baseOf file) ++ ['\n']
  if r.has 'a' ∨ r.has 's' then
    put (r.operands.flatMap (line ((r.value? 's').getD []))) s
  else
    match r.operands with
    | [] => misused "basename" "missing operand" 1 s
    | [file] => put (line [] file) s
    | [file, suffix] => put (line suffix file) s
    | _ :: _ :: extra :: _ => misused "basename" s!"extra operand {named extra}" 1 s

def dirname (r : Request) (s : Session) : Session :=
  if r.operands = [] then misused "dirname" "missing operand" 1 s
  else put (r.operands.flatMap fun file => directoryOf file ++ ['\n']) s

/-! ## Making and removing -/

/-- Removes a file, or a directory with everything below it. -/
def removeOne (r : Request) (file : Text) (s : Session) : Session :=
  let complaint := s!"rm: cannot remove {named file}"
  let tell (what : String) (s : Session) : Session :=
    if r.has 'v' then out s!"removed {what}{named file}\n".toList s else s
  let name := baseOf file
  match nodeAt? s file with
  | some (l, .directory) =>
    if r.has 'r' then
      if name = ['.'] ∨ name = ['.', '.'] then
        (say s!"rm: refusing to remove '.' or '..' directory: skipping {named file}" s).status 1
      else tell "directory " (succeed (s.files.eraseTree l) s)
    else if r.has 'd' ∧ !s.files.holdsAny l then tell "directory " (succeed (s.files.erase l) s)
    else if r.has 'd' then fail complaint Files.notEmpty s
    else fail complaint Files.isADirectory s
  | _ =>
    match s.files.unlink (pathOf file) with
    | .ok f => tell "" (succeed f s)
    | .error e =>
      if r.has 'f' ∧ (e = Files.noEntry ∨ e = Files.notDirectory) then s.status 0
      else fail complaint e s

def rm (r : Request) (s : Session) : Session :=
  if r.operands = [] ∧ !r.has 'f' then misused "rm" "missing operand" 1 s
  else forEach (removeOne r) r.operands s

/-- The prefixes of a path that end before a slash, and the path itself. -/
def prefixes (file : Text) : List Text :=
  (List.range file.length).filterMap (fun n =>
    if file[n]? = some '/' ∧ n ≠ 0 then some (file.take n) else none) ++ [file]

def makeOne (r : Request) (file : Text) (s : Session) : Session :=
  match s.files.makeDirectory (pathOf file) with
  | .ok f =>
    let s := succeed f s
    if r.has 'v' then out s!"mkdir: created directory {named file}\n".toList s else s
  | .error e =>
    if r.has 'p' ∧ isDirectory s file then s.status 0
    else fail s!"mkdir: cannot create directory {named file}" e s

/-- Makes a directory and those above it, up to the first one that can not be made. -/
def makeChain (r : Request) (file : Text) (s : Session) : Session :=
  let complaint (part : Text) : String := s!"mkdir: cannot create directory {named part}"
  (prefixes file).foldl
    (fun s part =>
      if s.process.status ≠ 0 then s
      else if part ≠ file ∧ !Files.isNothing s.files (pathOf part) ∧ !isDirectory s part then
        fail (complaint part) Files.notDirectory s
      else makeOne r part s) (s.status 0)

def mkdir (r : Request) (s : Session) : Session :=
  if r.operands = [] then misused "mkdir" "missing operand" 1 s
  else forEach (if r.has 'p' then makeChain r else makeOne r) r.operands s

def rmdir (r : Request) (s : Session) : Session :=
  let one (file : Text) (s : Session) : Session :=
    let complaint := s!"rmdir: failed to remove {named file}"
    match nodeAt? s file with
    | some (l, .directory) =>
      if s.files.holdsAny l then fail complaint Files.notEmpty s
      else succeed (s.files.erase l) s
    | some _ => fail complaint Files.notDirectory s
    | none =>
      match s.files.find (pathOf file) with
      | .error e => fail complaint e s
      | .ok _ => fail complaint Files.notDirectory s
  if r.operands = [] then misused "rmdir" "missing operand" 1 s else forEach one r.operands s

def touch (r : Request) (s : Session) : Session :=
  let one (file : Text) (s : Session) : Session :=
    if r.has 'c' ∨ isDirectory s file then s.status 0
    else
      match s.files.openEnd (pathOf file) with
      | .ok (_, f) => succeed f s
      | .error e => fail s!"touch: cannot touch {named file}" e s
  if r.operands = [] then misused "touch" "missing file operand" 1 s
  else forEach one r.operands s

/-! ## Links, copies and moves -/

/-- Where a file goes that is put at a path: into it, if it is a directory. -/
def destination (s : Session) (source file : Text) : Text :=
  if isDirectory s file then joined file (baseOf source) else file

/-- Hands the sources and the target of a request to an action on each source. -/
def intoTarget (name : String) (act : Text → Text → Session → Session) (r : Request)
    (s : Session) : Session :=
  match r.operands.reverse with
  | [] => misused name "missing file operand" 1 s
  | [file] => misused name s!"missing destination file operand after {named file}" 1 s
  | target :: sources =>
    if 1 < sources.length ∧ !isDirectory s target then
      if Files.isNothing s.files (pathOf target) then
        fail s!"{name}: target {named target}" Files.noEntry s
      else (say s!"{name}: target {named target}: Not a directory" s).status 1
    else
      forEach (fun source s => act source (destination s source target) s) sources.reverse s

/-- Makes a link at a path; one that is not symbolic is a copy. -/
def linkOne (r : Request) (source file : Text) (s : Session) : Session :=
  let cleared :=
    if r.has 'f' then ((s.files.unlink (pathOf file)).toOption).getD s.files else s.files
  if r.has 's' then
    match cleared.makeLink source.toBytes (pathOf file) with
    | .ok f => succeed f s
    | .error e => fail s!"ln: failed to create symbolic link {named file}" e s
  else
    match s.files.find (pathOf source) with
    | .error e => fail s!"ln: failed to access {named source}" e s
    | .ok (_, n) =>
      if n.isDirectory then
        (say s!"ln: {shown source}: hard link not allowed for directory" s).status 1
      else
        match cleared.freeSpot (pathOf file) with
        | .ok l => succeed (cleared.set l n) s
        | .error e => fail s!"ln: failed to create hard link {named file}" e s

def ln (r : Request) (s : Session) : Session :=
  match r.operands with
  | [source] => linkOne r source (baseOf source) s
  | [source, target] =>
    let keeps := r.has 'n' ∨ r.has 'T'
    linkOne r source
      (if keeps ∧ isLink s target then target else destination s source target) s
  | _ => intoTarget "ln" (linkOne r) r s

/-- Copies what stands at a location, with everything below it if it is a directory. -/
def copyTree (f : Files) (source target : Location) : Files :=
  let copies := f.entries.filterMap fun (l, n) =>
    (Files.under? source l).map fun below => (below ++ target, n)
  copies.foldl (fun f (l, n) => f.set l n) f

def copyOne (r : Request) (source file : Text) (s : Session) : Session :=
  let recursive := r.has 'r' ∨ r.has 'a'
  match s.files.find (pathOf source) with
  | .error e => fail s!"cp: cannot stat {named source}" e s
  | .ok (l, .directory) =>
    if !recursive then
      (say s!"cp: -r not specified; omitting directory {named source}" s).status 1
    else
      match s.files.locate true (pathOf file) with
      | .ok m =>
        if (Files.under? l m).isSome then
          (say s!"cp: cannot copy a directory, {named source}, into itself, {named file}" s).status 1
        else succeed (copyTree s.files l m) s
      | .error e => fail s!"cp: cannot create directory {named file}" e s
  | .ok (l, n) =>
    if s.files.leadsTo (pathOf file) l then
      (say s!"cp: {named source} and {named file} are the same file" s).status 1
    else
      match s.files.create (pathOf file) with
      | .ok (m, f) =>
        let isNew := Files.isNothing s.files (pathOf file)
        let f := f.append m (s.files.contentAt l)
        succeed (if isNew then f.setExecutable m n.isExecutable else f) s
      | .error e =>
        if e = Files.isADirectory ∧ Files.isNothing s.files (pathOf file) then
          fail s!"cp: cannot create regular file {named file}" Files.notDirectory s
        else fail s!"cp: cannot create regular file {named file}" e s

def cp (r : Request) (s : Session) : Session := intoTarget "cp" (copyOne r) r s

def moveOne (source file : Text) (s : Session) : Session :=
  match nodeAt? s source with
  | none => fail s!"mv: cannot stat {named source}" Files.noEntry s
  | some (l, n) =>
    match nodeAt? s file with
    | some (m, .directory) =>
      if l = m then (say s!"mv: {named source} and {named file} are the same file" s).status 1
      else if !n.isDirectory then
        (say s!"mv: cannot overwrite directory {named file} with non-directory" s).status 1
      else if s.files.holdsAny m then
        fail s!"mv: cannot move {named source} to {named file}" Files.notEmpty s
      else succeed (s.files.moveAt l m) s
    | some (m, _) =>
      if l = m then (say s!"mv: {named source} and {named file} are the same file" s).status 1
      else if n.isDirectory then
        (say s!"mv: cannot overwrite non-directory {named file} with directory {named source}"
          s).status 1
      else succeed (s.files.moveAt l m) s
    | none =>
      match s.files.locate false (pathOf file) with
      | .ok m =>
        if (Files.under? l m).isSome then
          (say s!"mv: cannot move {named source} to a subdirectory of itself, {named file}"
            s).status 1
        else if Files.meansDirectory (pathOf file) ∧ !n.isDirectory then
          fail s!"mv: cannot move {named source} to {named file}" Files.notDirectory s
        else succeed (s.files.moveAt l m) s
      | .error e => fail s!"mv: cannot move {named source} to {named file}" e s

def mv (r : Request) (s : Session) : Session := intoTarget "mv" moveOne r s

/-! ## Permissions -/

/-- One part of a mode by letters: whether it makes a file executable, if it says so. -/
def clause? (t : Text) : Option (Option Bool) :=
  let who := t.takeWhile (· ∈ ['u', 'g', 'o', 'a'])
  match t.drop who.length with
  | sign :: letters =>
    if sign ∉ ['+', '-', '='] ∨ letters.any (· ∉ ['r', 'w', 'x', 'X', 's', 't']) then none
    else if 'x' ∈ letters then some (some (sign ≠ '-'))
    else some (if sign = '=' ∧ ('u' ∈ who ∨ 'a' ∈ who ∨ who = []) then some false else none)
  | [] => none

/-- Whether a mode makes a file executable, if it says so; there is no answer for what is no mode. -/
def executableBy? (mode : Text) : Option (Option Bool) :=
  if mode ≠ [] ∧ mode.all Shell.Format.isOctal then
    some (some (mode.any (· ∈ ['1', '3', '5', '7'])))
  else
    let parts := (mode.splitBy fun a b => a ≠ ',' && b ≠ ',').filter (· ≠ [','])
    (parts.mapM clause?).map fun answers => (answers.filterMap id).getLast?

def chmod : List Text → Session → Session
  | mode :: file :: files, s =>
    match executableBy? mode with
    | none => misused "chmod" s!"invalid mode: {named mode}" 1 s
    | some executable =>
      let one (file : Text) (s : Session) : Session :=
        match s.files.find (pathOf file), executable with
        | .error e, _ => fail s!"chmod: cannot access {named file}" e s
        | .ok (l, _), some executable => succeed (s.files.setExecutable l executable) s
        | .ok _, none => s.status 0
      forEach one (file :: files) s
  | [mode], s => misused "chmod" s!"missing operand after {named mode}" 1 s
  | [], s => misused "chmod" "missing operand" 1 s

/-! ## Listing and resolving -/

/-- The names in a directory, in order. -/
def namesIn (r : Request) (s : Session) (l : Location) : List Text :=
  let names := s.files.entries.filterMap fun (m, _) =>
    match m with
    | name :: parent => if parent = l then some (Text.ofBytes name) else none
    | [] => none
  let names := if r.has 'a' then ['.'] :: ['.', '.'] :: names else names
  let names :=
    if r.has 'a' ∨ r.has 'A' then names else names.filter fun name => name.head? ≠ some '.'
  let names := Shell.alphabetical names
  if r.has 'r' then names.reverse else names

/-- A name as a list shows it: with a mark for its kind, if that is asked for. -/
def shownName (r : Request) (s : Session) (directory : Text) (name : Text) : Text :=
  let file := if directory = [] then name else joined directory name
  let mark : Text :=
    match nodeAt? s file with
    | some (_, .directory) => if r.has 'F' ∨ r.has 'p' then ['/'] else []
    | some (_, .link _) => if r.has 'F' then ['@'] else []
    | some (_, n) => if r.has 'F' ∧ n.isExecutable then ['*'] else []
    | none => []
  name ++ mark

def ls (r : Request) (s : Session) : Session :=
  let words := Shell.alphabetical (if r.operands = [] then [['.']] else r.operands)
  let isThere (file : Text) : Bool := (nodeAt? s file).isSome && !Files.isNothing s.files (pathOf file)
  let failed := words.filter fun file => !isThere file
  let s := failed.foldl
    (fun s file =>
      let e := match s.files.find (pathOf file) with | .error e => e | .ok _ => Files.noEntry
      fail s!"ls: cannot access {named file}" e s) s
  let known := words.filter isThere
  let isListed (file : Text) : Bool := isDirectory s file && !r.has 'd'
  let files := known.filter fun file => !isListed file
  let directories := known.filter isListed
  let line (directory name : Text) : Text := shownName r s directory name ++ ['\n']
  let entries (file : Text) : Text :=
    match s.files.find (pathOf file) with
    | .ok (l, _) => (namesIn r s l).flatMap (line file)
    | .error _ => []
  let titled := 1 < words.length
  let blocks := directories.map fun file =>
    (if titled then file ++ [':', '\n'] else []) ++ entries file
  let blocks := if files = [] then blocks else files.flatMap (line []) :: blocks
  put (blocks.intersperse ['\n']).flatten s |>.status (if failed = [] then 0 else 2)

/-- The whole path of a location. -/
def wholePath (l : Location) : Text :=
  if l = [] then ['/'] else l.reverse.flatMap fun name => '/' :: Text.ofBytes name

def readlink (r : Request) (s : Session) : Session :=
  let one (file : Text) (s : Session) : Session :=
    let resolved := r.has 'f' ∨ r.has 'e' ∨ r.has 'm'
    match s.files.locate resolved (pathOf file) with
    | .error _ => s.status 1
    | .ok l =>
      if resolved then put (wholePath l ++ ['\n']) s
      else
        match s.files.node? l with
        | some (.link target) =>
          put (Text.ofBytes target ++ if r.has 'n' then [] else ['\n']) s
        | _ => s.status 1
  if r.operands = [] then misused "readlink" "missing operand" 1 s else forEach one r.operands s

def realpath (r : Request) (s : Session) : Session :=
  let one (file : Text) (s : Session) : Session :=
    match s.files.locate true (pathOf file) with
    | .ok l => put (wholePath l ++ ['\n']) s
    | .error e => fail s!"realpath: {shown file}" e s
  if r.operands = [] then misused "realpath" "missing operand" 1 s else forEach one r.operands s

def pwd (s : Session) : Session := put (wholePath s.files.here ++ ['\n']) s

/-- Tools that ask for everything below a directory under two letters. -/
def oneLetter (r : Request) : Request :=
  { r with options := r.options.map fun (c, t) => (if c = 'R' then 'r' else c, t) }

/-- The tools for files. -/
def forFiles : List Tool :=
  [plain "chmod" chmod, plain "pwd" fun _ => pwd,
    withOptions "basename" "a" "s" [("multiple", 'a'), ("suffix", 's')] basename,
    withOptions "dirname" "" "" [] dirname,
    withOptions "rm" "rRfvidI" ""
      [("recursive", 'r'), ("force", 'f'), ("verbose", 'v'), ("dir", 'd')] (rm ∘ oneLetter),
    withOptions "mkdir" "pv" "m" [("parents", 'p'), ("verbose", 'v'), ("mode", 'm')] mkdir,
    withOptions "rmdir" "pv" "" [] rmdir,
    withOptions "touch" "acfhm" "drt" [("no-create", 'c'), ("date", 'd')] touch,
    withOptions "ln" "sfnTvr" ""
      [("symbolic", 's'), ("force", 'f'), ("no-dereference", 'n')] ln,
    withOptions "cp" "rRafpvnuTdLP" ""
      [("recursive", 'r'), ("force", 'f'), ("archive", 'a')] (cp ∘ oneLetter),
    withOptions "mv" "fnuvT" "" [("force", 'f')] mv,
    withMisuse 2 (withOptions "ls" "1aAdFprRUC" ""
      [("all", 'a'), ("almost-all", 'A'), ("directory", 'd'), ("reverse", 'r')] ls),
    withOptions "readlink" "femn" "" [("canonicalize", 'f')] readlink,
    withOptions "realpath" "emsq" "" [] realpath]

end DefectGate.Workspace.Tool
