import FillInStory.Text.Basic
import FillInStory.Text.Utf8
import FillInStory.Text.Blank
import FillInStory.Text.Numeral
import FillInStory.Text.Alphanumeric
import FillInStory.Text.Quoted
import FillInStory.Dictionary
import FillInStory.Story.Template
import FillInStory.Log.Record
import FillInStory.Files.Name
import FillInStory.Files.FileSystem
import FillInStory.Story.Loading
import FillInStory.Settings.Choices
import FillInStory.Json.Parser
import FillInStory.Web.FilledForm
import FillInStory.Web.StoryCall
import FillInStory.Web.MediaType
import FillInStory.Web.Urlencoded
import FillInStory.Web.Server
import FillInStory.Settings.Config
import FillInStory.Settings.Arguments
import FillInStory.Settings.DataDirectories
import FillInStory.Log.Settings
import FillInStory.Settings.Context
import FillInStory.Host
import FillInStory.Startup
import FillInStory.Main
import FillInStory.Proofs.Segment
import FillInStory.Proofs.Scan
import FillInStory.Proofs.FilledForm
import FillInStory.Proofs.FieldNames
import FillInStory.Proofs.StoryAnswers
import FillInStory.Proofs.Dependence
import FillInStory.Proofs.Markup
import FillInStory.Proofs.FormPage
import FillInStory.Proofs.Configuration
import FillInStory.Proofs.Walk
import FillInStory.Proofs.Listing
import FillInStory.Proofs.DirectoryFiles
import FillInStory.Proofs.Loading
import FillInStory.Proofs.Defects
import FillInStory.Proofs.Collections
import FillInStory.Proofs.AbsolutePath
import FillInStory.Proofs.Creation
import FillInStory.Proofs.Additions
import FillInStory.Proofs.DirectoryMaking
import FillInStory.Proofs.DataDirectories
import FillInStory.Proofs.SetUp
import FillInStory.Proofs.ConfigurationFile
import FillInStory.Proofs.Announcement
import FillInStory.Proofs.Course
import FillInStory.Proofs.Listening
import FillInStory.Proofs.Cutting
import FillInStory.Proofs.Keys
import FillInStory.Proofs.Stages
import FillInStory.Proofs.Composition
import FillInStory.Proofs.FormParameters
import FillInStory.Proofs.Locality
import FillInStory.Proofs.LiteralListing
import FillInStory.Proofs.LoadLog
import FillInStory.Proofs.LoadPolicies
import FillInStory.Proofs.NormalPath
import FillInStory.Proofs.Port
import FillInStory.Proofs.TomlReading
import FillInStory.Proofs.TomlDocument
import FillInStory.Proofs.TomlLines
import FillInStory.Proofs.TomlWriting
import FillInStory.Proofs.PartialConfiguration
import FillInStory.Proofs.RequestLog
import FillInStory.Proofs.Slices
import FillInStory.Proofs.SlicedReading
import FillInStory.Proofs.Timestamp
