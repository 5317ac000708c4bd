import LintRun.Process.Ending
import LintRun.Tree.Change

/-!
# Worlds

What the processes of a machine share: the files, the open channels with their positions,
the clock, and the signals on their way.  A process knows a channel by its index, so two
processes that hold the same index share its position.

* `World.read` and `World.write` move along a channel;
* `World.open` connects a new channel to a file;
* `World.edit` changes the tree.

A world is part of the machine that the program is tried on, as all of `Machine` and `Shell` is.
-/

namespace LintRun

/-- What may be done with an open file. -/
structure Access where
  reads : Bool := false
  writes : Bool := false
  /-- Whether each write goes to the end. -/
  appends : Bool := false
  deriving DecidableEq, Inhabited

/-- What an open channel is connected to. -/
inductive Channel
  /-- Holds nothing and takes everything. -/
  | nothing
  /-- A text that is read once. -/
  | source (rest : Chars)
  /-- Collects what is written and when, latest first; it takes only so many more writes. -/
  | sink (written : List (Int × Chars)) (room : Nat)
  | file (names : List Name) (position : Nat) (access : Access)
  | folder (names : List Name)
  deriving Inhabited

/-- How many writes a sink takes before its reader is taken to be gone. -/
def sinkRoom : Nat := 65536

/-- A sink in which nothing is yet. -/
def Channel.freshSink : Channel := .sink [] sinkRoom

/-- A sink that takes as much as is written. -/
def Channel.endlessSink : Channel := .sink [] (Nat.pow 2 63)

/-- What the processes of a machine share. -/
structure World where
  root : Listing
  channels : Array Channel := #[]
  /-- The time in nanoseconds. -/
  clock : Int := 0
  /-- The time after which nothing changes any more. -/
  limit? : Option Int := none
  /-- The number of the latest process. -/
  processes : Nat := 1
  /-- The signals that processes were sent and have not taken notice of. -/
  signals : List (Nat × Nat) := []
  deriving Inhabited

/-- Something that is done in a world. -/
abbrev Act := StateM World

/-- How a file is opened. -/
inductive Opening
  | read
  | write
  /-- Only if nothing is there. -/
  | create
  | append
  | update
  deriving DecidableEq, Inhabited

namespace Opening

/-- What may be done with a file that is opened so. -/
def access : Opening → Access
  | .read => { reads := true }
  | .write | .create => { writes := true }
  | .append => { writes := true, appends := true }
  | .update => { reads := true, writes := true }

/-- Whether a missing file is made. -/
def creates : Opening → Bool
  | .read => false
  | _ => true

/-- Whether the content of the file is dropped. -/
def truncates : Opening → Bool
  | .write | .create => true
  | _ => false

end Opening

namespace World

/-! ## 1. Channels -/

/-- The files seen from a directory. -/
def tree (w : World) (directory : List Name) : Tree := ⟨w.root, directory⟩

/-- Whether the time is past its limit. -/
def isOver (w : World) : Bool := w.limit?.any (· < w.clock)

/-- What a channel is connected to. -/
def channel (w : World) (k : Nat) : Channel := w.channels.getD k .nothing

/-- The world with a new channel, and its index. -/
def connect (w : World) (c : Channel) : Nat × World :=
  (w.channels.size, { w with channels := w.channels.push c })

/-- The world with a channel connected to something else. -/
def reconnect (w : World) (k : Nat) (c : Channel) : World :=
  { w with channels := w.channels.setIfInBounds k c }

/-- The content at the end of some names, empty if no file is there. -/
def contentAt (w : World) (names : List Name) : List UInt8 :=
  match (w.tree []).nodeAt? names with
  | some (.file f) => f.content
  | _ => []

/-- What can be read from a channel. -/
def ahead (w : World) (k : Nat) : Except OsError Chars :=
  match w.channel k with
  | .nothing => .ok []
  | .source rest => .ok rest
  | .sink _ _ => .error .badChannel
  | .folder _ => .error .isDirectory
  | .file names position access =>
    if access.reads then .ok (ofOctets ((w.contentAt names).drop position))
    else .error .badChannel

/-- The world with a channel moved on by so many characters. -/
def skip (w : World) (k n : Nat) : World :=
  match w.channel k with
  | .source rest => w.reconnect k (.source (rest.drop n))
  | .file names position access => w.reconnect k (.file names (position + n) access)
  | _ => w

/-- Bytes with others written over them from a position on. -/
def overwritten (content : List UInt8) (position : Nat) (bytes : List UInt8) : List UInt8 :=
  if position = content.length then content ++ bytes
  else
    content.take position ++ List.replicate (position - content.length) 0 ++ bytes ++
      content.drop (position + bytes.length)

/-- Writes a text to a channel. -/
def write (w : World) (k : Nat) (text : Chars) : Except OsError World :=
  if w.isOver then .ok w
  else match w.channel k with
  | .nothing => .ok w
  | .source _ | .folder _ => .error .badChannel
  | .sink written room =>
    if room = 0 then .error .brokenPipe
    else .ok (w.reconnect k (.sink ((w.clock, text) :: written) (room - 1)))
  | .file names position access =>
    if !access.writes then .error .badChannel
    else
      match (w.tree []).nodeAt? names with
      | some (.file f) =>
        let start := if access.appends then f.content.length else position
        let bytes := toOctets text
        let f := { f with content := overwritten f.content start bytes, modified := w.clock }
        .ok ({ w with root := w.root.put (.file f) names }.reconnect k
          (.file names (start + bytes.length) access))
      | _ => .ok w

/-- All that a sink holds, what was written at the same time in its order. -/
def collected (w : World) (k : Nat) : Chars :=
  match w.channel k with
  | .sink written _ =>
    ((written.reverse.mergeSort fun a b => decide (a.1 ≤ b.1)).map (·.2)).flatten
  | _ => []

/-! ## 2. Files -/

/-- Does something with the tree seen from a directory. -/
def edit (w : World) (directory : List Name) (f : Tree → Except OsError Tree) :
    Except OsError World :=
  if w.isOver then .ok w else (f (w.tree directory)).map fun t => { w with root := t.root }

/-- The files that take everything and hold nothing. -/
def deviceNames : List (List Name) :=
  ["null", "zero", "full", "tty", "random", "urandom"].map fun n =>
    [Utf8.encode "dev", Utf8.encode n]

/-- How many bytes of a device that never ends can be read. -/
def deviceLength : Nat := 65536

/-- What a device is read as. -/
def deviceChannel (names : List Name) (o : Opening) : Channel :=
  if names.getLast? = some (Utf8.encode "zero") && !o.access.writes then
    .source (List.replicate deviceLength (Char.ofNat 0))
  else .nothing

/-- Opens a file; a new one gets the permission bits. -/
def openFile (w : World) (directory : List Name) (mode : Nat) (o : Opening) (p : Path) :
    Except OsError (Nat × World) := do
  if w.isOver then return w.connect .nothing
  let t := w.tree directory
  let s ← if o.creates then t.site true p else (t.locate true p).map fun x => ⟨x.names, x.node⟩
  match s.node? with
  | some (.directory _) =>
    if o = .read then return w.connect (.folder s.names)
    else throw .isDirectory
  | some (.file f) =>
    if deviceNames.contains s.names then return w.connect (deviceChannel s.names o)
    else if o = .create then throw .alreadyThere
    else
      let w := if o.truncates then
          let emptied := { f with content := [], modified := w.clock }
          { w with root := w.root.put (.file emptied) s.names }
        else w
      return w.connect (.file s.names 0 o.access)
  | some (.link _) => throw .tooManyLinks
  | none =>
    if p.endsInSlash then throw .isDirectory
    else
      let w := { w with root := w.root.put (.file { mode, modified := w.clock }) s.names }
      return w.connect (.file s.names 0 o.access)

/-- A channel after the entry at some names was taken away. -/
def cutOff (w : World) (names : List Name) (c : Channel) : Channel :=
  match c with
  | .file held position access =>
    if held = names then
      if access.reads && !access.writes then .source (ofOctets ((w.contentAt names).drop position))
      else .nothing
    else c
  | _ => c

/-- Takes away an entry that is not a directory; who has it open keeps what it held. -/
def unlink (w : World) (directory : List Name) (p : Path) : Except OsError World := do
  if w.isOver then return w
  let place ← (w.tree directory).locate false p
  let after ← w.edit directory (·.unlink p)
  return { after with channels := w.channels.map (w.cutOff place.names) }

/-- A channel after what was at some names was moved. -/
def moved (old new : List Name) (c : Channel) : Channel :=
  match c with
  | .file held position access =>
    if old.isPrefixOf held then .file (new ++ held.drop old.length) position access else c
  | _ => c

/-- Moves an entry; who has it open goes along. -/
def rename (w : World) (directory : List Name) (source goal : Path) : Except OsError World := do
  if w.isOver then return w
  let t := w.tree directory
  let old ← t.locate false source
  let new ← t.site false goal
  let after ← w.edit directory (·.rename source goal)
  let channels := if old.names = new.names then w.channels
    else (w.channels.map (w.cutOff new.names)).map (moved old.names new.names)
  return { after with channels }

/-! ## 3. Processes -/

/-- A number for a new process. -/
def newProcess (w : World) : Nat × World :=
  (w.processes + 1, { w with processes := w.processes + 1 })

/-- Sends a signal to a process. -/
def send (w : World) (process signal : Nat) : World :=
  if w.isOver then w else { w with signals := w.signals ++ [(process, signal)] }

/-- Lets time pass. -/
def pass (w : World) (duration : Nat) : World :=
  if w.isOver then w else { w with clock := w.clock + duration }

end World

namespace Act

/-- Does something that may be refused. -/
def attempt (f : World → Except OsError World) : Act (Except OsError Unit) := fun w =>
  match f w with
  | .ok w => (.ok (), w)
  | .error e => (.error e, w)

/-- Does something that may be refused and gives a value. -/
def attemptWith {α : Type} (f : World → Except OsError (α × World)) : Act (Except OsError α) :=
  fun w =>
    match f w with
    | .ok (a, w) => (.ok a, w)
    | .error e => (.error e, w)

/-- Does something until a time: nothing if it would take longer. -/
def limited {α : Type} (limit : Int) (a : Act α) : Act (Option α) := fun w =>
  let least := match w.limit? with
    | some l => min l limit
    | none => limit
  let (x, after) := a { w with limit? := some least }
  if after.clock ≤ limit then (some x, { after with limit? := w.limit? })
  else (none, { after with limit? := w.limit?, clock := if w.isOver then w.clock else limit })

/-- A new channel. -/
def connect (c : Channel) : Act Nat := fun w => w.connect c

end Act

end LintRun
