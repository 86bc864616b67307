import SoundBoard.Wave.WaveLib
import SoundBoard.Wave.Scan
import SoundBoard.Wave.Riff
import SoundBoard.Wave.Astray
import SoundBoard.Fat.FatFileSystem
import SoundBoard.Fat.Card
import SoundBoard.Fat.Format
import SoundBoard.Fat.Chain
import SoundBoard.Fat.Directory
import SoundBoard.Player.WavePlay
import SoundBoard.Player.PlayList
import SoundBoard.Player.Fidelity
import SoundBoard.Player.SongFiles
import SoundBoard.Player.Isolation
import SoundBoard.Player.CardImage
import SoundBoard.Player.Membership
import SoundBoard.Player.Songs
import SoundBoard.Player.CardListing
import SoundBoard.Player.TableBounds
import SoundBoard.Player.Lookup
import SoundBoard.Player.Errors
import SoundBoard.Player.HeaderScan
import SoundBoard.Player.WaveFiles
import SoundBoard.Player.Progress
import SoundBoard.Player.OwnBytes
import SoundBoard.Tasks.System
import SoundBoard.Tasks.Exclusive
import SoundBoard.Tasks.Indices
import SoundBoard.Tasks.Recorder
import SoundBoard.Tasks.Replay
import SoundBoard.Tasks.Handles
import SoundBoard.Tasks.Buttons
import SoundBoard.Tasks.Rates
import SoundBoard.Tasks.Unmodified
import SoundBoard.Tasks.Controls
import SoundBoard.Tasks.Stop
import SoundBoard.Tasks.Presses
import SoundBoard.Tasks.Volume
import SoundBoard.Player.BufferBounds
import SoundBoard.Player.HeaderAgree
import SoundBoard.Player.PlayRange
import SoundBoard.Player.Updates
import SoundBoard.Player.Ages
import SoundBoard.Player.Repeats
import SoundBoard.Graphics.GraphicF
import SoundBoard.Fat.Queries
import SoundBoard.Sdcard.BlockDevice
import SoundBoard.Sdcard.Conversation
import SoundBoard.Audio.Transfers
import SoundBoard.Audio.Codec
import SoundBoard.Audio.Settings
import SoundBoard.Audio.Wired
