import CommandShell.Proofs.Reading
import CommandShell.Startup

/-!
# A Startup File Is Read as if It Were Typed

The lines of a startup file are cut from the decoded text and run by a loop of
their own, while the lines of a feed are cut from its bytes, decoded one by one
and run by the shell's loop. A shell that runs the file and then reads a feed
ends as one that reads the bytes of the file in front of the feed: in the same
session, journal included, and with the same result.

The file must not end in an open line, which the feed would continue. If it
asks for the end, neither shell looks at the rest.

## Theorems

* `load_of_read`: A file that can be read is run line by line.
* `lines_append`: The lines of a feed with a text in front of it.
* `load_then_run`: A file before a feed is the front of the feed.
-/

namespace CommandShell

open Text Input

/-- Where nothing is pending before some lines, nothing is behind them. -/
theorem Session.pending_evalLines (m : Machine) (lines : List String) {s : Session}
    (h : s.monitor.pending = false) : (s.evalLines m lines).monitor.pending = false := by
  rcases monitor_evalLines m s lines with hsame | hleft
  · rw [hsame, h]
  · rw [hleft]
    rfl

/-- A file that can be read is run line by line. -/
theorem Startup.load_of_read (m : Machine) {s : Session} {startup : Startup} {path : File.RawPath}
    (hpath : startup.path = some path) {text : String}
    (hread : m.files.read s.directory path = .ok (encode text)) :
    startup.load m s = (s.evalLines m (lines text), .ok ()) := by
  have htext : readText m s.directory path = .ok text := by
    simp only [readText, hread, bind, Except.bind, decode?_encode]
  simp only [load, hpath, htext]

/-- The lines of a feed with a text in front of it that leaves no line open. -/
theorem Input.Feed.lines_append {text : String} (hends : EndsLine '\n' text.toList)
    {typed whole : Feed} (hbytes : whole.chunks.flatten = encode text ++ typed.chunks.flatten)
    (hending : whole.ending = typed.ending) : whole.lines = Text.lines text ++ typed.lines := by
  -- Each line of the text has its newline, so none is lost if the feed breaks.
  have hhanded : (rawLines newlineByte (encode text)).filter (handsOut typed.ending)
      = rawLines newlineByte (encode text) := by
    refine List.filter_eq_self.2 fun line hmem => ?_
    have hlast := getLast?_of_mem_rawLines (endsLine_encode hends) hmem
    simp [handsOut, hlast]
  rw [Feed.lines, hbytes, hending, rawLines_append_of_endsLine (endsLine_encode hends),
    List.filter_append, List.map_append, hhanded, ← decodeLossy_splitLines, splitLines,
    List.map_map]
  rfl

/-- A startup file that is run before a feed is read does what the front of the feed would
    do: both shells run the lines of the file and those of the feed in order, each of them
    once, up to a request to exit. -/
theorem Startup.load_then_run (m : Machine) {s : Session} (hpending : s.monitor.pending = false)
    {startup : Startup} {path : File.RawPath} (hpath : startup.path = some path) {text : String}
    (hends : EndsLine '\n' text.toList)
    (hread : m.files.read s.directory path = .ok (encode text)) {typed whole : Feed}
    (hbytes : whole.chunks.flatten = encode text ++ typed.chunks.flatten)
    (hending : whole.ending = typed.ending) (prompt : String) :
    let loaded := startup.load m s
    let parts := Shell.run m ⟨loaded.1, .feed typed, prompt⟩
    let joined := Shell.run m ⟨s, .feed whole, prompt⟩
    loaded.2 = .ok () ∧
      Session.RanUntilExit m (lines text) s loaded.1 ∧
      Session.RanUntilExit m typed.lines loaded.1 parts.1.session ∧
      Session.RanUntilExit m (lines text ++ typed.lines) s joined.1.session ∧
      parts.1.session = joined.1.session ∧
      parts.2 = joined.2 ∧
      joined.2 = joined.1.session.outcome typed.ending := by
  intro loaded parts joined
  -- Both shells run lines in the end, and the lines of the whole are those of the parts.
  have hloaded : loaded = (s.evalLines m (lines text), .ok ()) := load_of_read m hpath hread
  have hfirst : loaded.1 = s.evalLines m (lines text) := by rw [hloaded]
  have hquiet : loaded.1.monitor.pending = false := by
    rw [hfirst]
    exact Session.pending_evalLines m (lines text) hpending
  rcases Shell.run_feed m ⟨loaded.1, .feed typed, prompt⟩ rfl hquiet with
    ⟨hparts, hpartsResult⟩
  rcases Shell.run_feed m ⟨s, .feed whole, prompt⟩ rfl hpending with
    ⟨hjoined, hjoinedResult⟩
  have hlines := Feed.lines_append hends hbytes hending
  have hsame : loaded.1.evalLines m typed.lines = s.evalLines m whole.lines := by
    rw [hlines, Session.evalLines_append, hfirst]
  refine ⟨by rw [hloaded], ?_, ?_, ?_, ?_, ?_, ?_⟩
  · rw [hfirst]
    exact Session.ranUntilExit_evalLines m (lines text) s
  · rw [show parts.1.session = _ from hparts]
    exact Session.ranUntilExit_evalLines m typed.lines loaded.1
  · rw [show joined.1.session = _ from hjoined, hlines]
    exact Session.ranUntilExit_evalLines m (lines text ++ typed.lines) s
  · exact hparts.trans (hsame.trans hjoined.symm)
  · rw [show parts.2 = _ from hpartsResult, show joined.2 = _ from hjoinedResult, hending]
    exact congrArg (Session.outcome · typed.ending) hsame
  · rw [show joined.2 = _ from hjoinedResult, hending]
    exact congrArg (Session.outcome · typed.ending) hjoined.symm

/-- The file holds a line with a carriage return, and the feed asks for the end in a line
    that comes in two chunks. -/
theorem Startup.load_then_run_chunks :
    let m : Machine :=
      { Machine.bare fun _ _ => .quiet (.ok (.exited 0)) with
        files := .ofEntries [(["rc"], .regular (encode "nope\r\n") false)] }
    let s := Session.fresh Environment.empty
    let typed : Feed := ⟨[encode "exi", encode "t\nnope"], none⟩
    let whole : Feed := ⟨[encode "nope\r\nexit\nnope"], none⟩
    let loaded := Startup.load m ⟨some (.text "/rc"), true⟩ s
    s.monitor.pending = false ∧ EndsLine '\n' "nope\r\n".toList ∧
      m.files.read s.directory (.text "/rc") = .ok (encode "nope\r\n") ∧
      whole.chunks.flatten = encode "nope\r\n" ++ typed.chunks.flatten ∧
      (Shell.run m ⟨loaded.1, .feed typed, ""⟩).1.session
        = (Shell.run m ⟨s, .feed whole, ""⟩).1.session ∧
      loaded.1.state.status = 127 := by
  intro m s typed whole loaded
  have hends : EndsLine '\n' "nope\r\n".toList := Or.inr (by decide +kernel)
  have hread : m.files.read s.directory (.text "/rc") = .ok (encode "nope\r\n") := by
    decide +kernel
  have hbytes : whole.chunks.flatten = encode "nope\r\n" ++ typed.chunks.flatten := by
    decide +kernel
  have hpath : (Startup.mk (some (.text "/rc")) true).path = some (.text "/rc") := rfl
  have hrun := load_then_run m (s := s) rfl hpath hends hread hbytes rfl ""
  exact ⟨rfl, hends, hread, hbytes, hrun.2.2.2.2.1, by decide +kernel⟩

end CommandShell
